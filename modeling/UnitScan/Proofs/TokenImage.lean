import UnitScan.Proofs.SpelledLexemes

/-!
# Which lists of tokens are scans

A token is well formed for a policy when its kind and its payload fit together and its first
character is one that the scanner looks at. The lists of well formed tokens are exactly the lists
that the scans of texts give, positions aside: tokens may follow one another in any order.

## Implementation notes

A text with given tokens spells them with a space after each, so the theorem asks for a policy
that skips the space. Only the first character of a token must be neither a blank nor the comment
marker, since a lexeme that has begun is read to its end without looking for gaps.
-/

namespace UnitScan

/-- The text of an exponent: digits, perhaps with a sign before them. -/
def NumberText.IsExponent (text : List Char) : Prop :=
  ∃ sign digits, (sign = [] ∨ sign = ['+'] ∨ sign = ['-']) ∧ Numeral.IsDigits digits ∧
    text = sign ++ digits

/-- A number that has ASCII digits in each part that is present. -/
structure NumberText.WellFormed (n : NumberText) : Prop where
  integer : Numeral.IsDigits n.integer.toList
  fraction : ∀ f ∈ n.fraction, Numeral.IsDigits f.toList
  exponent : ∀ e ∈ n.exponent, IsExponent e.toList

/-- The tokens that scans under a policy are made of, wherever they stand. No end token is one
of them. -/
inductive Token.WellFormed (p : Policy) : Token → Prop
  | newline {pos : Position} : WellFormed p ⟨.newline, .none, pos⟩
  | operator {o : Operator} {pos : Position} (blank : p.isBlank o.char = false) :
      WellFormed p ⟨.operator o, .none, pos⟩
  | ident {c : Char} {name : List Char} {pos : Position} (start : p.startsIdent c = true)
      (blank : p.isBlank c = false) (marker : p.marker ≠ some c)
      (tail : ∀ x ∈ name, p.continuesIdent x = true) :
      WellFormed p ⟨.ident, .text (String.ofList (c :: name)), pos⟩
  | number {n : NumberText} {pos : Position} (parts : n.WellFormed)
      (blank : ∀ c ∈ n.integer.toList.head?, p.isBlank c = false) :
      WellFormed p ⟨.number, .number n, pos⟩
  | error {x : Char} {pos : Position} (newline : x ≠ '\n') (blank : p.isBlank x = false)
      (marker : p.marker ≠ some x) (ident : p.startsIdent x = false)
      (digit : x.isDigit = false) (operator : Operator.isChar x = false) :
      WellFormed p ⟨.error, .text ("unexpected character '" ++ x.toString ++ "'"), pos⟩

namespace Numeral

theorem Exponent.isExponent_unmarked {e : Exponent} (h : e.WellFormed) :
    NumberText.IsExponent e.unmarked := by
  refine ⟨e.sign.toList, e.digits, ?_, h.digits, rfl⟩
  cases hs : e.sign with
  | none => exact Or.inl rfl
  | some s =>
      rcases Exponent.isSign_iff.mp (h.sign s hs) with rfl | rfl
      · exact Or.inr (Or.inl rfl)
      · exact Or.inr (Or.inr rfl)

theorem WellFormed.numberText {n : Numeral} (h : n.WellFormed) : n.numberText.WellFormed where
  integer := by simpa [Numeral.numberText] using h.integer
  fraction := by
    intro f hf
    obtain ⟨digits, hdigits, rfl⟩ := Option.map_eq_some_iff.mp hf
    simpa using h.fraction digits hdigits
  exponent := by
    intro e he
    obtain ⟨exponent, hexponent, rfl⟩ := Option.map_eq_some_iff.mp he
    simpa using Exponent.isExponent_unmarked (h.exponent exponent hexponent)

end Numeral

/-! ### Tokens of lexemes are well formed -/

theorem Lexeme.Realizable.wellFormed_token {p : Policy} {l : Lexeme} (h : l.Realizable p)
    (pos : Position) : (l.token pos).WellFormed p := by
  rcases h.recognised with hallowed | ⟨x, rfl, hnone⟩
  · cases hallowed with
    | newline => exact Token.WellFormed.newline
    | operator o => exact Token.WellFormed.operator (h.fresh o.char rfl).1
    | ident hstart hname =>
        obtain ⟨hblank, hmarker⟩ := h.fresh _ rfl
        exact Token.WellFormed.ident hstart hblank hmarker hname
    | @number n hn =>
        obtain ⟨d, ds, hds⟩ := List.exists_cons_of_ne_nil hn.integer.1
        apply Token.WellFormed.number hn.numberText
        intro c hc
        have hcd : d = c := by simpa [Numeral.numberText, hds] using hc
        apply (h.fresh c _).1
        simp [spelling, Numeral.spelling, hds, hcd]
  · obtain ⟨hblank, hmarker⟩ := h.fresh x rfl
    exact Token.WellFormed.error hnone.newline hblank hmarker hnone.ident hnone.number
      hnone.operator

/-! ### Well formed tokens have lexemes -/

theorem NumberText.IsExponent.exists_exponent {text : List Char} (h : IsExponent text) :
    ∃ e : Numeral.Exponent, e.WellFormed ∧ e.unmarked = text := by
  obtain ⟨sign, digits, hsign, hdigits, rfl⟩ := h
  rcases hsign with rfl | rfl | rfl
  · exact ⟨⟨'e', none, digits⟩, ⟨rfl, by simp, hdigits⟩, rfl⟩
  · exact ⟨⟨'e', some '+', digits⟩, ⟨rfl, by rintro s ⟨⟩; rfl, hdigits⟩, rfl⟩
  · exact ⟨⟨'e', some '-', digits⟩, ⟨rfl, by rintro s ⟨⟩; rfl, hdigits⟩, rfl⟩

theorem NumberText.WellFormed.exists_exponent {n : NumberText} (h : n.WellFormed) :
    ∃ exponent : Option Numeral.Exponent, (∀ e ∈ exponent, e.WellFormed) ∧
      (exponent.map fun e => String.ofList e.unmarked) = n.exponent := by
  cases he : n.exponent with
  | none => exact ⟨none, by simp, rfl⟩
  | some text =>
      obtain ⟨e, hwf, htext⟩ := (h.exponent text he).exists_exponent
      refine ⟨some e, ?_, by simp [htext]⟩
      rintro e' ⟨⟩
      exact hwf

theorem NumberText.WellFormed.exists_numeral {n : NumberText} (h : n.WellFormed) :
    ∃ m : Numeral, m.WellFormed ∧ m.integer = n.integer.toList ∧ m.numberText = n := by
  obtain ⟨exponent, hwf, hexponent⟩ := h.exists_exponent
  refine ⟨⟨n.integer.toList, n.fraction.map String.toList, exponent⟩, ⟨h.integer, ?_, hwf⟩, rfl, ?_⟩
  · intro f hf
    obtain ⟨text, htext, rfl⟩ := Option.map_eq_some_iff.mp hf
    exact h.fraction text htext
  · simp [Numeral.numberText, hexponent, Function.comp_def]

theorem Token.WellFormed.exists_lexeme {p : Policy} {t : Token} (h : t.WellFormed p) :
    ∃ l : Lexeme, l.Realizable p ∧ l.content = t.content := by
  cases h with
  | newline =>
      refine ⟨.newline, ⟨Or.inl Lexeme.Allowed.newline, ?_⟩, rfl⟩
      rintro c ⟨⟩
      exact ⟨p.isBlank_newline, p.marker_ne_newline⟩
  | @operator o _ hblank =>
      refine ⟨.operator o, ⟨Or.inl (Lexeme.Allowed.operator o), ?_⟩, rfl⟩
      rintro c ⟨⟩
      exact ⟨hblank, p.marker_ne_operator o⟩
  | @ident c name _ hstart hblank hmarker hname =>
      refine ⟨.ident (c :: name), ⟨Or.inl (Lexeme.Allowed.ident hstart hname), ?_⟩, rfl⟩
      rintro x ⟨⟩
      exact ⟨hblank, hmarker⟩
  | number hparts hblank =>
      obtain ⟨m, hm, hinteger, htext⟩ := hparts.exists_numeral
      refine ⟨.number m, ⟨Or.inl (Lexeme.Allowed.number hm), ?_⟩, ?_⟩
      · obtain ⟨d, ds, hds⟩ := List.exists_cons_of_ne_nil hm.integer.1
        intro x hx
        have hxd : d = x := by simpa [Lexeme.spelling, Numeral.spelling, hds] using hx
        subst hxd
        refine ⟨hblank d (by simp [← hinteger, hds]), ?_⟩
        exact p.marker_ne_of_isDigit (hm.integer.2 d (by simp [hds]))
      · rw [Lexeme.content, htext, Token.content]
  | @error x _ hnewline hblank hmarker hident hdigit hoperator =>
      refine ⟨.stray x, ⟨Or.inr ⟨x, rfl, hnewline, hident, hdigit, hoperator⟩, ?_⟩, rfl⟩
      rintro c ⟨⟩
      exact ⟨hblank, hmarker⟩

theorem Token.exists_lexemes {p : Policy} {ts : List Token} (h : ∀ t ∈ ts, t.WellFormed p) :
    ∃ ls : List Lexeme, (∀ l ∈ ls, l.Realizable p) ∧
      ls.map Lexeme.content = ts.map Token.content := by
  induction ts with
  | nil => exact ⟨[], by simp, rfl⟩
  | cons t ts ih =>
      obtain ⟨l, hl, hcontent⟩ := (h t List.mem_cons_self).exists_lexeme
      obtain ⟨ls, hls, hcontents⟩ := ih fun u hu => h u (List.mem_cons_of_mem _ hu)
      refine ⟨l :: ls, ?_, by rw [List.map_cons, List.map_cons, hcontent, hcontents]⟩
      intro m hm
      rcases List.mem_cons.mp hm with rfl | hm
      · exact hl
      · exact hls m hm

/-! ### The image of the scanner -/

/-- Whether a token is well formed does not depend on its position. -/
theorem Token.WellFormed.of_content_eq {p : Policy} {t u : Token} (h : t.WellFormed p)
    (heq : u.content = t.content) : u.WellFormed p := by
  obtain ⟨l, hl, hcontent⟩ := h.exists_lexeme
  have htoken : l.token u.position = u := by
    rw [Lexeme.token, hcontent, ← heq]
    rfl
  exact htoken ▸ hl.wellFormed_token u.position

theorem wellFormed_of_mem_tokens {p : Policy} {text : List Char} {t : Token}
    (h : t ∈ tokens p text) : t.WellFormed p := by
  rw [tokens_eq_map] at h
  obtain ⟨r, hr, rfl⟩ := List.mem_map.mp h
  have hmem : r.lexeme ∈ lexemes p text := List.mem_map_of_mem hr
  exact (Lexeme.realizable_of_mem_lexemes hmem).wellFormed_token _

/-- Under a policy that skips the space, a list of tokens is the scan of some text, positions
aside, exactly when all its tokens are well formed. No scan has an end token. -/
theorem exists_tokens_iff_wellFormed (p : Policy) (hspace : p.isBlank ' ' = true)
    (ts : List Token) :
    ((∃ text, (tokens p text).map Token.content = ts.map Token.content) ↔
        ∀ t ∈ ts, t.WellFormed p) ∧
      ∀ text, ∀ t ∈ tokens p text, t.isEnd = false := by
  refine ⟨⟨?_, ?_⟩, fun text t ht => isEnd_of_mem_tokens ht⟩
  · rintro ⟨text, htext⟩ t ht
    have hmem : t.content ∈ (tokens p text).map Token.content := by
      rw [htext]
      exact List.mem_map_of_mem ht
    obtain ⟨u, hu, hcontent⟩ := List.mem_map.mp hmem
    exact (wellFormed_of_mem_tokens hu).of_content_eq hcontent.symm
  · intro h
    obtain ⟨ls, hls, hcontent⟩ := Token.exists_lexemes h
    refine ⟨ls.flatMap fun l => l.spelling ++ [' '], ?_⟩
    rw [map_content_tokens, Lexeme.lexemes_flatMap_space hspace ls hls, hcontent]

/-- A stray backslash before a newline, and a number before a name that could be its exponent:
some text has these tokens under the standard policy. -/
theorem exists_tokens_iff_wellFormed_standard :
    Policy.standard.isBlank ' ' = true ∧
      ∃ text, (tokens Policy.standard text).map Token.content =
        [(.error, .text "unexpected character '\\'"), (.newline, .none),
          (.number, .number ⟨"1", none, none⟩), (.ident, .text "e5")] := by
  have hspace : Policy.standard.isBlank ' ' = true := by decide
  have herror : (⟨.error, .text "unexpected character '\\'", ⟨1, 1⟩⟩ : Token).WellFormed
      Policy.standard :=
    @Token.WellFormed.error _ '\\' _ (by decide) (by decide) (by decide) (by decide) (by decide)
      (by decide)
  have hnumber : (⟨.number, .number ⟨"1", none, none⟩, ⟨2, 1⟩⟩ : Token).WellFormed
      Policy.standard := by
    apply Token.WellFormed.number
    · exact ⟨⟨by decide, List.all_eq_true.mp (by decide)⟩, by simp, by simp⟩
    · rintro c ⟨⟩
      decide
  have hident : (⟨.ident, .text "e5", ⟨2, 3⟩⟩ : Token).WellFormed Policy.standard :=
    @Token.WellFormed.ident _ 'e' ['5'] _ (by decide) (by decide) (by decide)
      (List.forall_mem_singleton.mpr (by decide))
  have hwf : ∀ t ∈ [(⟨.error, .text "unexpected character '\\'", ⟨1, 1⟩⟩ : Token),
      ⟨.newline, .none, ⟨1, 2⟩⟩, ⟨.number, .number ⟨"1", none, none⟩, ⟨2, 1⟩⟩,
      ⟨.ident, .text "e5", ⟨2, 3⟩⟩], t.WellFormed Policy.standard := by
    simp only [List.forall_mem_cons, List.not_mem_nil, false_imp_iff, implies_true, and_true]
    exact ⟨herror, Token.WellFormed.newline, hnumber, hident⟩
  exact ⟨hspace, (exists_tokens_iff_wellFormed Policy.standard hspace _).1.mpr hwf⟩

end UnitScan

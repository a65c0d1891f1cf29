import UnitScan.Proofs.CommentErasure
import UnitScan.Proofs.TextPositions

/-!
# Stray characters are always reported

A character that has no part in the language of a policy, such as the one that replaces damaged
bytes, cannot be swallowed by a lexeme, by layout or by a look ahead. Comments are its only hiding
place. So the error tokens that report the character correspond to its occurrences outside of
comments, one to one and in order, and each has the position of its occurrence.

## Implementation notes

The result is stated for several characters at once, since the errors that report different
characters come in one sequence. `strayPlaces` has the places as plain numbers, so the places of a
text are the places of its parts one after the other, and each part is treated on its own.
-/

namespace UnitScan

/-- Whether no comment marker stands before a place of a text on its line. -/
def OutsideComments (p : Policy) (text : List Char) (i : Nat) : Prop :=
  ∀ m ∈ p.marker, m ∉ Text.lastLine (text.take i)

instance (p : Policy) (text : List Char) : DecidablePred (OutsideComments p text) :=
  fun i => Option.decidableForallMem (p := fun m => m ∉ Text.lastLine (text.take i)) p.marker

/-- Whether a token is the error that reports a character. -/
def Token.Reports (x : Char) (t : Token) : Prop :=
  t.content = (.error, .text ("unexpected character '" ++ x.toString ++ "'"))

instance (x : Char) : DecidablePred (Token.Reports x) :=
  fun t => inferInstanceAs (Decidable (t.content = _))

/-- A character that is stray wherever a scan comes upon it, and that no lexeme goes on with. -/
structure Policy.Foreign (p : Policy) (x : Char) : Prop where
  startsNone : Lexeme.StartsNone p x
  boundary : p.Boundary x
  blank : p.isBlank x = false
  marker : p.marker ≠ some x
  backslash : x ≠ '\\'

/-! ### Errors and characters -/

theorem Lexeme.strayMessage_inj {x y : Char} (h : strayMessage x = strayMessage y) : x = y := by
  have hquoted : ∀ before after : String,
      before ++ x.toString ++ after = before ++ y.toString ++ after → x = y := by
    intro before after heq
    have hchars := congrArg String.toList heq
    simp only [String.toList_append] at hchars
    simpa using List.append_cancel_left (List.append_cancel_right hchars)
  exact hquoted _ _ h

/-- An error token reports a character exactly if it is the token of this stray character. -/
theorem Lexeme.reports_token_iff {l : Lexeme} {pos : Position} {x : Char} :
    (l.token pos).Reports x ↔ l = stray x := by
  constructor
  · intro h
    have herror : (l.token pos).isError = true := by
      rw [Token.isError]
      exact decide_eq_true (congrArg Prod.fst h)
    obtain ⟨y, rfl⟩ := isError_token_iff.mp herror
    have htext := Token.Payload.text.inj (congrArg Prod.snd h)
    rw [strayMessage_inj htext]
  · rintro rfl
    rfl

/-- A token that reports a character is determined by its position. -/
theorem Token.Reports.eq_mk {x : Char} {t : Token} (h : t.Reports x) :
    t = ⟨.error, .text ("unexpected character '" ++ x.toString ++ "'"), t.position⟩ := by
  obtain ⟨kind, payload, pos⟩ := t
  obtain ⟨rfl, rfl⟩ := Prod.mk.inj h
  rfl

/-- The positions of the tokens that report one of the given characters. -/
def Token.reportPositions (xs : List Char) (tokens : List Token) : List Position :=
  (tokens.filter fun t => xs.any fun x => t.Reports x).map position

theorem Token.reportPositions_append (xs : List Char) (tokens later : List Token) :
    reportPositions xs (tokens ++ later) =
      reportPositions xs tokens ++ reportPositions xs later := by
  rw [reportPositions, List.filter_append, List.map_append]
  rfl

theorem Lexeme.reportPositions_stray {xs : List Char} {x : Char} (hx : x ∈ xs) (pos : Position) :
    Token.reportPositions xs [(stray x).token pos] = [pos] := by
  have hreports : (xs.any fun y => ((stray x).token pos).Reports y) = true :=
    List.any_eq_true.mpr ⟨x, hx, decide_eq_true rfl⟩
  simp only [Token.reportPositions, List.filter_cons, hreports, if_true, List.filter_nil,
    List.map_singleton]
  rfl

/-- The token of a lexeme without any of the characters reports none of them. -/
theorem Lexeme.reportPositions_of_notMem {xs : List Char} {l : Lexeme}
    (h : ∀ x ∈ xs, x ∉ l.spelling) (pos : Position) :
    Token.reportPositions xs [l.token pos] = [] := by
  rw [Token.reportPositions, List.map_eq_nil_iff, List.filter_eq_nil_iff]
  intro t ht
  rw [List.mem_singleton.mp ht, List.any_eq_true]
  rintro ⟨x, hx, hreports⟩
  apply h x hx
  rw [reports_token_iff.mp (of_decide_eq_true hreports)]
  exact List.mem_singleton_self x

/-! ### The places of stray characters -/

/-- The places of some characters outside of comments, among the `n` places of a text from
`start` on. -/
def strayPlaces (p : Policy) (xs text : List Char) (start n : Nat) : List Nat :=
  (List.range' start n).filter fun i =>
    (xs.any fun x => text[i]? = some x) && OutsideComments p text i

section Places

variable {p : Policy} {xs text before chars after : List Char}

theorem strayPlaces_append (text : List Char) (start m n : Nat) :
    strayPlaces p xs text start m ++ strayPlaces p xs text (start + m) n =
      strayPlaces p xs text start (m + n) := by
  rw [strayPlaces, strayPlaces, strayPlaces, ← List.filter_append, List.range'_append_1]

/-- A stretch of a text has no places if a comment hides each of the characters in it. -/
theorem strayPlaces_eq_nil (htext : text = before ++ (chars ++ after))
    (h : ∀ k x, chars[k]? = some x → x ∈ xs → ¬OutsideComments p text (before.length + k)) :
    strayPlaces p xs text before.length chars.length = [] := by
  rw [strayPlaces, List.filter_eq_nil_iff]
  intro i hi
  obtain ⟨hge, hlt⟩ := List.mem_range'_1.mp hi
  obtain ⟨k, rfl⟩ := Nat.exists_eq_add_of_le hge
  have hk : k < chars.length := by omega
  have hat : text[before.length + k]? = chars[k]? := by
    rw [htext, List.getElem?_append_right hge, Nat.add_sub_cancel_left,
      List.getElem?_append_left hk]
  rw [Bool.and_eq_true, List.any_eq_true]
  rintro ⟨⟨x, hx, hplace⟩, houtside⟩
  rw [hat, decide_eq_true_eq] at hplace
  exact h k x hplace hx (of_decide_eq_true houtside)

theorem strayPlaces_of_notMem (htext : text = before ++ (chars ++ after))
    (h : ∀ x ∈ xs, x ∉ chars) : strayPlaces p xs text before.length chars.length = [] := by
  apply strayPlaces_eq_nil htext
  intro k x hat hx
  exact absurd (List.mem_of_getElem? hat) (h x hx)

/-- A comment hides all its characters behind the marker. -/
theorem strayPlaces_of_comment {m : Char} {body : List Char}
    (htext : text = before ++ (m :: body ++ after)) (hm : p.marker = some m) (hline : '\n' ∉ body)
    (hxs : m ∉ xs) : strayPlaces p xs text before.length (m :: body).length = [] := by
  apply strayPlaces_eq_nil htext
  intro k x hat hx houtside
  cases k with
  | zero =>
      cases hat
      exact hxs hx
  | succ k =>
      have hk : k + 1 ≤ (m :: body).length := (List.getElem?_eq_some_iff.mp hat).1.le
      have htake : text.take (before.length + (k + 1)) = before ++ m :: body.take k := by
        rw [htext, List.take_length_add_append, List.take_append_of_le_length hk,
          List.take_succ_cons]
      have hnewline : '\n' ∉ m :: body.take k :=
        List.not_mem_cons_of_ne_of_not_mem (Policy.newline_ne_of_marker hm)
          (mt List.mem_of_mem_take hline)
      apply houtside m hm
      rw [htake, Text.lastLine_append_of_notMem hnewline]
      exact List.mem_append_right _ List.mem_cons_self

/-- No piece of a gap shows one of the characters: a blank and a continuation have none of them,
and a comment hides them. -/
theorem strayPlaces_of_piece (htext : text = before ++ (chars ++ after))
    (hxs : ∀ x ∈ xs, p.Foreign x) (h : Gap.Piece p chars after) :
    strayPlaces p xs text before.length chars.length = [] := by
  cases h with
  | blank hblank =>
      apply strayPlaces_of_notMem htext
      intro x hx hmem
      exact absurd (List.mem_singleton.mp hmem) (Policy.ne_of_isBlank hblank (hxs x hx).blank)
  | comment _ hm hline _ =>
      apply strayPlaces_of_comment htext hm hline
      intro hmem
      exact (hxs _ hmem).marker hm
  | continuation =>
      apply strayPlaces_of_notMem htext
      intro x hx hmem
      rcases List.mem_cons.mp hmem with heq | hmem
      · exact (hxs x hx).backslash heq
      · exact (hxs x hx).startsNone.newline (List.mem_singleton.mp hmem)

theorem strayPlaces_singleton {x : Char} (htext : text = before ++ ([x] ++ after)) (hx : x ∈ xs)
    (h : ∀ m ∈ p.marker, m ∉ Text.lastLine before) :
    strayPlaces p xs text before.length 1 = [before.length] := by
  have hat : text[before.length]? = some x := by
    rw [htext, List.getElem?_append_right (Nat.le_refl _), Nat.sub_self]
    rfl
  have houtside : OutsideComments p text before.length := by
    rw [OutsideComments, htext, List.take_left]
    exact h
  have hplace : ((xs.any fun y => text[before.length]? = some y) &&
      OutsideComments p text before.length) = true :=
    Bool.and_eq_true_iff.mpr
      ⟨List.any_eq_true.mpr ⟨x, hx, decide_eq_true hat⟩, decide_eq_true houtside⟩
  simp only [strayPlaces, List.range'_one, List.filter_cons, hplace, if_true, List.filter_nil]

end Places

/-! ### From the parts of a text to its tokens -/

section Parts

variable {p : Policy} {xs : List Char} {text : List Char}
  (hmarker : ∀ m, p.marker = some m → p.Boundary m) (hxs : ∀ x ∈ xs, p.Foreign x)

include hmarker hxs

/-- A part of a text reports the given characters exactly where they stand in the part outside of
comments. -/
theorem reportPositions_part {before later : List Part} {part : Part}
    (h : parts p text = before ++ part :: later) :
    Token.reportPositions xs
        (part.lexeme?.toList.map (·.token (Position.start.after (Part.spellAll before)))) =
      (strayPlaces p xs text (Part.spellAll before).length part.spelling.length).map
        (Position.atOffset text) := by
  have htext : text = Part.spellAll before ++ (part.spelling ++ Part.spellAll later) := by
    rw [← spellAll_parts p text, h, Part.spellAll_append, Part.spellAll_cons]
  have hnext := next?_of_parts_eq_cons (parts_of_eq_append h)
  rcases Part.next?_cases hnext with
    ⟨chars, rfl, -, hpiece⟩ | ⟨c, tail, l, rfl, hfirst, -, hread⟩
  · rw [strayPlaces_of_piece htext hxs hpiece]
    rfl
  · rw [Part.lexeme?, Option.toList_some, List.map_singleton]
    by_cases hc : c ∈ xs
    · have hforeign := hxs c hc
      rw [Lexeme.read_of_startsNone hforeign.startsNone] at hread
      cases hread
      have hline : ∀ m ∈ p.marker, m ∉ Text.lastLine (Part.spellAll before) := by
        intro m hm
        apply marker_notMem_lastLine hm (hmarker m hm) h _ hforeign.startsNone.newline
        rw [hfirst, List.head?_cons]
      have hplaces : strayPlaces p xs text (Part.spellAll before).length
          (Part.lexeme (.stray c)).spelling.length = [(Part.spellAll before).length] :=
        strayPlaces_singleton htext hc hline
      have hposition : Position.start.after (Part.spellAll before) =
          Position.atOffset text (Part.spellAll before).length := by
        rw [← Position.start_after_take, htext, List.take_left]
      rw [Lexeme.reportPositions_stray hc, hplaces, hposition, List.map_singleton]
    · have habsent : ∀ x ∈ xs, x ∉ l.spelling := by
        intro x hx
        have hne : x ≠ c := by
          rintro rfl
          exact hc hx
        have hspelling := Lexeme.notMem_spelling_read (hxs x hx).boundary hne tail
        rwa [hread] at hspelling
      rw [Lexeme.reportPositions_of_notMem habsent, strayPlaces_of_notMem htext habsent]
      rfl

/-- What is left of a text behind some of its parts reports the given characters exactly where they
stand in it outside of comments. -/
theorem reportPositions_tokensFrom {before later : List Part}
    (h : parts p text = before ++ later) :
    Token.reportPositions xs
        (tokensFrom p (Position.start.after (Part.spellAll before)) (Part.spellAll later)) =
      (strayPlaces p xs text (Part.spellAll before).length (Part.spellAll later).length).map
        (Position.atOffset text) := by
  induction later generalizing before with
  | nil =>
      have hnone : Reading.next? p [] = none := by
        rw [Reading.next?_eq_none_iff, Gap.split_of_piece?_eq_none rfl]
      rw [Part.spellAll_nil, tokensFrom_of_next?_eq_none hnone]
      rfl
  | cons part later ih =>
      have hnext := next?_of_parts_eq_cons (parts_of_eq_append h)
      have hpart := reportPositions_part hmarker hxs h
      have hparts : parts p text = (before ++ [part]) ++ later := by
        rw [h, List.append_assoc, List.singleton_append]
      have hlater := ih hparts
      have hspell : Part.spellAll (before ++ [part]) = Part.spellAll before ++ part.spelling := by
        rw [Part.spellAll_append, Part.spellAll_cons, Part.spellAll_nil, List.append_nil]
      rw [hspell, Position.after_append, List.length_append] at hlater
      rw [tokensFrom_of_first hnext, Token.reportPositions_append, hpart, hlater, ← List.map_append,
        strayPlaces_append, Part.spellAll_cons, List.length_append]

/-- The errors that report one of the given characters have the positions at which these stand in
the text outside of comments. -/
theorem reportPositions_tokens (text : List Char) :
    Token.reportPositions xs (tokens p text) =
      (strayPlaces p xs text 0 text.length).map (Position.atOffset text) := by
  have hparts : parts p text = [] ++ parts p text := rfl
  have hall := reportPositions_tokensFrom hmarker hxs hparts
  rwa [Part.spellAll_nil, spellAll_parts] at hall

end Parts

/-! ### Characters without a part in a configured policy -/

namespace Configuration

variable {c : Configuration} {p : Policy} (h : c.policy = .ok p)

include h

/-- Every character that starts identifiers continues them as well. -/
theorem continuesIdent_of_startsIdent {x : Char} (hx : p.startsIdent x = true) :
    p.continuesIdent x = true := by
  have hjoiners : (Policy.standard.settings.starters.toList.all fun y =>
      Policy.standard.settings.joiners.toList.contains y) = true := by
    decide
  rw [startsIdent_eq h, Policy.startsIdent, Bool.or_eq_true] at hx
  rw [continuesIdent_eq h]
  rcases hx with hletter | hstarter
  · simp only [Policy.continuesIdent, hletter, Bool.true_or]
  · have hmem := List.all_eq_true.mp hjoiners x (List.contains_iff_mem.mp hstarter)
    simp only [Policy.continuesIdent, hmem, Bool.or_true]

/-- A character that continues no identifier ends numerals too, since points, digits and exponent
marks continue identifiers. -/
theorem boundary_of_continuesIdent {x : Char} (hident : p.continuesIdent x = false)
    (hoperator : Operator.isChar x = false) : p.Boundary x where
  ident := hident
  number := by
    rw [continuesIdent_eq h] at hident
    apply Numeral.stops_iff.mpr
    refine ⟨?_, ?_, ?_⟩
    · rw [Bool.eq_false_iff]
      intro hdigit
      simp [Policy.continuesIdent, Character.isDigit_of_isDigit hdigit] at hident
    · rintro rfl
      revert hident
      decide
    · rw [Bool.eq_false_iff]
      intro hmark
      rcases Numeral.Exponent.isMark_iff.mp hmark with rfl | rfl
      · revert hident
        decide
      · revert hident
        decide
  sign := by
    rw [Bool.eq_false_iff]
    intro hsign
    rcases Numeral.Exponent.isSign_iff.mp hsign with rfl | rfl
    · revert hoperator
      decide
    · revert hoperator
      decide

theorem foreign_of_continuesIdent {x : Char} (hident : p.continuesIdent x = false)
    (hblank : p.isBlank x = false) (hoperator : Operator.isChar x = false) (hnewline : x ≠ '\n')
    (hslash : x ≠ '\\') (hmarker : p.marker ≠ some x) : p.Foreign x where
  startsNone := by
    constructor
    · exact hnewline
    · rw [Bool.eq_false_iff]
      intro hstarts
      rw [continuesIdent_of_startsIdent h hstarts] at hident
      cases hident
    · rw [Bool.eq_false_iff]
      intro hdigit
      simp [Policy.continuesIdent, Character.isDigit_of_isDigit hdigit] at hident
    · exact hoperator
  boundary := boundary_of_continuesIdent h hident hoperator
  blank := hblank
  marker := hmarker
  backslash := hslash

end Configuration

/-- Under a configuration, let a character neither continue identifiers nor be a blank, an operator,
the newline, the backslash or the comment marker. The errors that report it are, in order, one for
each place where it stands with no comment marker before it on its line, and each error has the
line and the column of its place. -/
theorem filter_reports_tokens {c : Configuration} {p : Policy} (h : c.policy = .ok p) {x : Char}
    (hident : p.continuesIdent x = false) (hblank : p.isBlank x = false)
    (hoperator : Operator.isChar x = false) (hnewline : x ≠ '\n') (hslash : x ≠ '\\')
    (hmarker : p.marker ≠ some x) (text : List Char) :
    (tokens p text).filter (Token.Reports x) =
      ((List.range text.length).filter fun i =>
          text[i]? = some x ∧ OutsideComments p text i).map fun i =>
        ⟨.error, .text ("unexpected character '" ++ x.toString ++ "'"),
          Position.atOffset text i⟩ := by
  have hforeign := Configuration.foreign_of_continuesIdent h hident hblank hoperator hnewline hslash
    hmarker
  have hboundary : ∀ m, p.marker = some m → p.Boundary m := fun m hm =>
    Configuration.boundary_of_marker h hm
  have hpositions :
      ((tokens p text).filter (Token.Reports x)).map Token.position =
        ((List.range text.length).filter fun i =>
          text[i]? = some x ∧ OutsideComments p text i).map (Position.atOffset text) := by
    have hall := reportPositions_tokens hboundary (List.forall_mem_singleton.mpr hforeign) text
    simpa only [Token.reportPositions, strayPlaces, List.any_cons, List.any_nil, Bool.or_false,
      Bool.decide_and, ← List.range_eq_range'] using hall
  have herrors : (tokens p text).filter (Token.Reports x) =
      (((tokens p text).filter (Token.Reports x)).map Token.position).map fun pos =>
        ⟨.error, .text ("unexpected character '" ++ x.toString ++ "'"), pos⟩ := by
    rw [List.map_map]
    refine (List.map_id _).symm.trans (List.map_congr_left fun t ht => ?_)
    exact Token.Reports.eq_mk (of_decide_eq_true (List.mem_filter.mp ht).2)
  rw [herrors, hpositions, List.map_map]
  rfl

/-- Replaced bytes behind an identifier, in a number that might go on with an exponent, behind a
continuation and at the start of a line after a comment are reported, one in the comment is not. -/
theorem filter_reports_tokens_standard :
    Configuration.policy {} = .ok Policy.standard ∧
      Policy.standard.continuesIdent '\ufffd' = false ∧
      Policy.standard.isBlank '\ufffd' = false ∧ Operator.isChar '\ufffd' = false ∧
      '\ufffd' ≠ '\n' ∧ '\ufffd' ≠ '\\' ∧ Policy.standard.marker ≠ some '\ufffd' ∧
      (tokens Policy.standard "a\ufffd 1e\ufffd\\\n\ufffd#\ufffd\n\ufffd".toList).filter
          (Token.Reports '\ufffd') =
        [⟨.error, .text "unexpected character '\ufffd'", ⟨1, 2⟩⟩,
          ⟨.error, .text "unexpected character '\ufffd'", ⟨1, 6⟩⟩,
          ⟨.error, .text "unexpected character '\ufffd'", ⟨2, 1⟩⟩,
          ⟨.error, .text "unexpected character '\ufffd'", ⟨3, 1⟩⟩] := by
  have hpolicy := Configuration.policy_default
  have hident : Policy.standard.continuesIdent '\ufffd' = false := by decide +kernel
  have hblank : Policy.standard.isBlank '\ufffd' = false := by decide
  have hoperator : Operator.isChar '\ufffd' = false := by decide
  have hmarker : Policy.standard.marker ≠ some '\ufffd' := by decide
  refine ⟨hpolicy, hident, hblank, hoperator, by decide, by decide, hmarker, ?_⟩
  rw [filter_reports_tokens hpolicy hident hblank hoperator (by decide) (by decide) hmarker]
  decide +kernel

end UnitScan

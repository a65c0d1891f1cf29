import UnitScan.Lexeme
import UnitScan.Proofs.CharacterClasses
import UnitScan.Proofs.NumeralGrammar

/-!
# The grammar of lexemes

The lexemes of a policy that are no errors form a language of their own, given here by its four
alternatives and without mentioning how a text is read. The first character of such a lexeme
decides the alternative, whatever order the reader tries them in. The reader is compared with
the language in both directions: what it reads is allowed or a stray character, and of all
allowed lexemes at the front of a text it reads the longest.
-/

namespace UnitScan.Lexeme

/-- The lexemes of a policy that are no errors. -/
inductive Allowed (p : Policy) : Lexeme → Prop
  | newline : Allowed p newline
  | ident {c : Char} {name : List Char} (start : p.startsIdent c = true)
      (tail : ∀ x ∈ name, p.continuesIdent x = true) : Allowed p (ident (c :: name))
  | number {n : Numeral} (h : n.WellFormed) : Allowed p (number n)
  | operator (o : Operator) : Allowed p (operator o)

/-- No allowed lexeme starts with such a character. -/
structure StartsNone (p : Policy) (c : Char) : Prop where
  newline : c ≠ '\n'
  ident : p.startsIdent c = false
  number : c.isDigit = false
  operator : Operator.isChar c = false

/-- Whether a lexeme is not continued by a character that follows it. -/
def endsBefore (p : Policy) : Lexeme → Char → Bool
  | ident _, c => !p.continuesIdent c
  | number _, c => Numeral.stops c
  | newline, _ | operator _, _ | stray _, _ => true

/-! ### Reading by the class of the first character -/

section Read

variable {p : Policy} {c : Char}

theorem read_newline (p : Policy) (rest : List Char) : read p '\n' rest = (newline, rest) := by
  rw [read, if_pos rfl]

theorem read_of_startsIdent (h : p.startsIdent c = true) (rest : List Char) :
    read p c rest =
      (ident (c :: rest.takeWhile p.continuesIdent), rest.dropWhile p.continuesIdent) := by
  have hne : c ≠ '\n' := by
    rintro rfl
    rw [p.startsIdent_newline] at h
    cases h
  rw [read, if_neg hne, if_pos h]

theorem read_of_isDigit (h : c.isDigit = true) (rest : List Char) :
    read p c rest =
      (number (Numeral.read (c :: rest)).1, (Numeral.read (c :: rest)).2) := by
  have hne : c ≠ '\n' := by
    rintro rfl
    cases h
  have hstart : ¬p.startsIdent c = true := by simp [p.startsIdent_of_isDigit h]
  rw [read, if_neg hne, if_neg hstart, if_pos h]

theorem read_operator (p : Policy) (o : Operator) (rest : List Char) :
    read p o.char rest = (operator o, rest) := by
  have hstart : ¬p.startsIdent o.char = true := by simp [p.startsIdent_operator o]
  have hdigit : ¬o.char.isDigit = true := by simp [o.isDigit_char]
  rw [read, if_neg o.char_ne_newline, if_neg hstart, if_neg hdigit, Operator.ofChar?_char]

theorem read_of_startsNone (h : StartsNone p c) (rest : List Char) :
    read p c rest = (stray c, rest) := by
  have hnone : Operator.ofChar? c = none := by simpa [Operator.isChar] using h.operator
  simp [read, h.newline, h.ident, h.number, hnone]

/-- Every character is of one of the five classes that the reader tells apart. -/
theorem class_cases (p : Policy) (c : Char) :
    c = '\n' ∨ p.startsIdent c = true ∨ c.isDigit = true ∨ (∃ o : Operator, o.char = c) ∨
      StartsNone p c := by
  by_cases hnewline : c = '\n'
  · exact Or.inl hnewline
  right
  by_cases hident : p.startsIdent c = true
  · exact Or.inl hident
  right
  by_cases hdigit : c.isDigit = true
  · exact Or.inl hdigit
  right
  cases hop : Operator.ofChar? c with
  | some o => exact Or.inl ⟨o, Operator.char_of_ofChar? hop⟩
  | none =>
      right
      constructor
      · exact hnewline
      · exact Bool.eq_false_iff.mpr hident
      · exact Bool.eq_false_iff.mpr hdigit
      · simp [Operator.isChar, hop]

end Read

/-! ### What is read is allowed or stray -/

theorem allowed_read_or_startsNone (p : Policy) (c : Char) (rest : List Char) :
    (read p c rest).1.Allowed p ∨ StartsNone p c := by
  rcases class_cases p c with rfl | hident | hdigit | ⟨o, rfl⟩ | hnone
  · left
    rw [read_newline]
    exact Allowed.newline
  · left
    rw [read_of_startsIdent hident]
    apply Allowed.ident hident
    intro x hx
    exact List.mem_takeWhile_imp hx
  · left
    rw [read_of_isDigit hdigit]
    apply Allowed.number
    exact Numeral.wellFormed_read hdigit rest
  · left
    rw [read_operator]
    exact Allowed.operator o
  · exact Or.inr hnone

/-- An allowed lexeme starts with a character that starts allowed lexemes. -/
theorem Allowed.spelling_eq_cons {p : Policy} {l : Lexeme} (h : l.Allowed p) :
    ∃ c rest, l.spelling = c :: rest ∧ ¬StartsNone p c := by
  cases h with
  | newline => exact ⟨'\n', [], rfl, fun hnone => hnone.newline rfl⟩
  | @ident c name hstart _ =>
      refine ⟨c, name, rfl, fun hnone => ?_⟩
      rw [hnone.ident] at hstart
      cases hstart
  | number hn =>
      obtain ⟨d, ds, hds, hd⟩ := hn.spelling_eq_cons
      refine ⟨d, ds, hds, fun hnone => ?_⟩
      rw [hnone.number] at hd
      cases hd
  | operator o =>
      refine ⟨o.char, [], rfl, fun hnone => ?_⟩
      have hchar := hnone.operator
      rw [Operator.isChar_char] at hchar
      cases hchar

theorem Allowed.spelling_ne_nil {p : Policy} {l : Lexeme} (h : l.Allowed p) :
    l.spelling ≠ [] := by
  obtain ⟨c, rest, hspelling, _⟩ := h.spelling_eq_cons
  simp [hspelling]

theorem not_prefix_of_startsNone {p : Policy} {c : Char} (hc : StartsNone p c) {l : Lexeme}
    (h : l.Allowed p) (rest : List Char) : ¬l.spelling <+: c :: rest := by
  obtain ⟨d, ds, hspelling, hd⟩ := h.spelling_eq_cons
  rw [hspelling, List.cons_prefix_cons]
  rintro ⟨rfl, _⟩
  exact hd hc

/-! ### The longest lexeme -/

/-- No allowed lexeme at the front of a text is longer than the one that is read. -/
theorem length_spelling_le_read {p : Policy} {l : Lexeme} (h : l.Allowed p) {c : Char}
    {rest : List Char} (hpre : l.spelling <+: c :: rest) :
    l.spelling.length ≤ (read p c rest).1.spelling.length := by
  cases h with
  | newline => exact List.length_pos_iff.mpr (spelling_read_ne_nil p c rest)
  | operator o => exact List.length_pos_iff.mpr (spelling_read_ne_nil p c rest)
  | @ident d name hstart hname =>
      obtain ⟨rfl, tail, rfl⟩ := List.cons_prefix_cons.mp hpre
      rw [read_of_startsIdent hstart]
      simp [spelling, List.takeWhile_append_of_pos hname]
  | @number n hn =>
      obtain ⟨d, ds, hds, hd⟩ := hn.spelling_eq_cons
      have hdc : d = c := by
        simp only [spelling, hds, List.cons_prefix_cons] at hpre
        exact hpre.1
      subst hdc
      rw [read_of_isDigit hd]
      exact Numeral.length_le_of_prefix hn hpre

/-- An allowed lexeme is read back where nothing continues it. -/
theorem read_of_spelling {p : Policy} {l : Lexeme} (h : l.Allowed p) {c : Char}
    {cs rest : List Char} (hspelling : l.spelling = c :: cs)
    (hrest : ∀ x ∈ rest.head?, l.endsBefore p x = true) : read p c (cs ++ rest) = (l, rest) := by
  cases h with
  | newline =>
      obtain ⟨rfl, rfl⟩ := List.cons.inj hspelling
      exact read_newline p rest
  | operator o =>
      obtain ⟨rfl, rfl⟩ := List.cons.inj hspelling
      exact read_operator p o rest
  | @ident d name hstart hname =>
      obtain ⟨rfl, rfl⟩ := List.cons.inj hspelling
      have hend : ∀ x ∈ rest.head?, p.continuesIdent x = false := by
        intro x hx
        simpa [endsBefore] using hrest x hx
      rw [read_of_startsIdent hstart, takeWhile_run_append hname hend,
        dropWhile_run_append hname hend]
  | @number n hn =>
      obtain ⟨d, ds, hds, hd⟩ := hn.spelling_eq_cons
      have hcons : d :: ds = c :: cs := hds.symm.trans hspelling
      obtain ⟨rfl, rfl⟩ := List.cons.inj hcons
      have hread := Numeral.read_spelling_append hrest hn
      rw [hds, List.cons_append] at hread
      rw [read_of_isDigit hd, hread]

/-- The spelling of an allowed lexeme belongs to one alternative and has one reading in it. -/
theorem Allowed.eq_of_spelling_eq {p : Policy} {l m : Lexeme} (hl : l.Allowed p)
    (hm : m.Allowed p) (h : l.spelling = m.spelling) : l = m := by
  obtain ⟨c, cs, hspelling, _⟩ := hl.spelling_eq_cons
  have hreadl : read p c (cs ++ []) = (l, []) := read_of_spelling hl hspelling (by simp)
  have hreadm : read p c (cs ++ []) = (m, []) :=
    read_of_spelling hm (h.symm.trans hspelling) (by simp)
  exact (Prod.mk.inj (hreadl.symm.trans hreadm)).1

/-- Of the allowed lexemes only the newline starts with a newline. -/
theorem Allowed.head_ne_newline {p : Policy} {l : Lexeme} (h : l.Allowed p)
    (hl : l ≠ Lexeme.newline) {c : Char} {cs : List Char} (hspelling : l.spelling = c :: cs) :
    c ≠ '\n' := by
  rintro rfl
  have hread : read p '\n' (cs ++ []) = (l, []) := read_of_spelling h hspelling (by simp)
  rw [read_newline] at hread
  exact hl (Prod.mk.inj hread).1.symm

/-! ### Tokens of lexemes -/

@[simp] theorem content_token (l : Lexeme) (pos : Position) :
    (l.token pos).content = l.content := rfl

/-- The error tokens are the tokens of stray characters. -/
theorem isError_token_iff {l : Lexeme} {pos : Position} :
    (l.token pos).isError = true ↔ ∃ c, l = stray c := by
  cases l <;> simp [token, content, Token.isError]

theorem isEnd_token (l : Lexeme) (pos : Position) : (l.token pos).isEnd = false := by
  cases l <;> simp [token, content, Token.isEnd]

theorem Allowed.ne_stray {p : Policy} {l : Lexeme} (h : l.Allowed p) (c : Char) :
    l ≠ stray c := by
  rintro rfl
  cases h

theorem Allowed.isError_token {p : Policy} {l : Lexeme} (h : l.Allowed p) (pos : Position) :
    (l.token pos).isError = false := by
  rw [Bool.eq_false_iff]
  intro herror
  obtain ⟨c, hc⟩ := isError_token_iff.mp herror
  exact h.ne_stray c hc

end UnitScan.Lexeme

import UnitScan.Proofs.LexemeGrammar

/-!
# Boundaries

A boundary is a character that no lexeme goes on with. What the scanner reads in front of a
boundary is what it would read if the text ended there, also where it has looked ahead for a
fraction or an exponent that is not there. The newline is a boundary of every policy.
-/

namespace UnitScan

/-- No lexeme goes on with such a character, and no part of a numeral is completed by it. -/
structure Policy.Boundary (p : Policy) (c : Char) : Prop where
  ident : p.continuesIdent c = false
  number : Numeral.stops c = true
  sign : Numeral.Exponent.isSign c = false

theorem Policy.boundary_newline (p : Policy) : p.Boundary '\n' where
  ident := p.continuesIdent_newline
  number := by decide
  sign := by decide

/-- A text that a boundary starts can stand behind any lexeme. -/
theorem Policy.Boundary.head?_cons {p : Policy} {c : Char} (h : p.Boundary c)
    (more : List Char) : ∀ x ∈ (c :: more).head?, p.Boundary x := by
  rintro x ⟨⟩
  exact h

namespace Numeral

section Boundary

variable {more : List Char} (hstops : ∀ c ∈ more.head?, stops c = true)

include hstops

theorem readFraction_append_stop (text : List Char) :
    readFraction (text ++ more) = ((readFraction text).1, (readFraction text).2 ++ more) := by
  cases text with
  | nil => exact readFraction_of_stops hstops
  | cons c text =>
      by_cases hc : c = '.'
      · subst hc
        have hdigit := isDigit_of_stops hstops
        simp only [List.cons_append, readFraction, takeWhile_append_stop hdigit,
          dropWhile_append_stop hdigit]
        split <;> rfl
      · rw [List.cons_append, readFraction_of_ne_point hc, readFraction_of_ne_point hc,
          List.cons_append]

variable (hsign : ∀ c ∈ more.head?, Exponent.isSign c = false)

omit hstops in
include hsign in
theorem readSign_append_stop (text : List Char) :
    readSign (text ++ more) = ((readSign text).1, (readSign text).2 ++ more) := by
  cases text with
  | nil =>
      cases more with
      | nil => rfl
      | cons c more => simp [readSign, hsign c rfl]
  | cons c text =>
      rw [List.cons_append, readSign, readSign]
      split <;> rfl

include hsign in
theorem readExponent_append_stop (text : List Char) :
    readExponent (text ++ more) = ((readExponent text).1, (readExponent text).2 ++ more) := by
  cases text with
  | nil => exact readExponent_of_stops hstops
  | cons c text =>
      have hdigit := isDigit_of_stops hstops
      simp only [List.cons_append, readExponent, readSign_append_stop hsign,
        takeWhile_append_stop hdigit, dropWhile_append_stop hdigit]
      split
      · split <;> rfl
      · rfl

include hsign in
/-- A numeral in front of a boundary is read as if the text ended there. -/
theorem read_append_stop (text : List Char) :
    read (text ++ more) = ((read text).1, (read text).2 ++ more) := by
  have hdigit := isDigit_of_stops hstops
  simp only [read, takeWhile_append_stop hdigit, dropWhile_append_stop hdigit,
    readFraction_append_stop hstops, readExponent_append_stop hstops hsign]

end Boundary

end Numeral

/-- A lexeme in front of a boundary is read as if the text ended there. -/
theorem Lexeme.read_append_boundary {p : Policy} {more : List Char}
    (hmore : ∀ c ∈ more.head?, p.Boundary c) (c : Char) (tail : List Char) :
    read p c (tail ++ more) = ((read p c tail).1, (read p c tail).2 ++ more) := by
  have hident : ∀ x ∈ more.head?, p.continuesIdent x = false := fun x hx => (hmore x hx).ident
  have hstops : ∀ x ∈ more.head?, Numeral.stops x = true := fun x hx => (hmore x hx).number
  have hsign : ∀ x ∈ more.head?, Numeral.Exponent.isSign x = false :=
    fun x hx => (hmore x hx).sign
  rcases class_cases p c with rfl | hstart | hdigit | ⟨o, rfl⟩ | hnone
  · rw [read_newline, read_newline]
  · rw [read_of_startsIdent hstart, read_of_startsIdent hstart, takeWhile_append_stop hident,
      dropWhile_append_stop hident]
  · rw [read_of_isDigit hdigit, read_of_isDigit hdigit, ← List.cons_append,
      Numeral.read_append_stop hstops hsign]
  · rw [read_operator, read_operator]
  · rw [read_of_startsNone hnone, read_of_startsNone hnone]

/-- Neither a lexeme nor what follows it contains anything that the text does not contain. -/
theorem Lexeme.notMem_read {c m : Char} {tail : List Char} (h : m ∉ c :: tail) (p : Policy) :
    m ∉ (read p c tail).1.spelling ∧ m ∉ (read p c tail).2 := by
  rw [← read_append p c tail, List.mem_append, not_or] at h
  exact h

/-- A lexeme contains no boundary, except for a boundary that it starts with. -/
theorem Lexeme.notMem_spelling_read {p : Policy} {c m : Char} (hm : p.Boundary m) (hc : m ≠ c)
    (tail : List Char) : m ∉ (read p c tail).1.spelling := by
  obtain ⟨line, rest, rfl, hline, hhead⟩ := exists_eq_append_notMem m tail
  have hrest : ∀ x ∈ rest.head?, p.Boundary x := by
    intro x hx
    rw [hhead x hx]
    exact hm
  rw [read_append_boundary hrest]
  exact (notMem_read (List.not_mem_cons_of_ne_of_not_mem hc hline) p).1

end UnitScan

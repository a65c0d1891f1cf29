import UnitScan.Numeral
import UnitScan.Proofs.CharacterClasses
import Mathlib.Data.Option.Basic

/-!
# The grammar of numerals

A numeral is well formed when each of its parts has its digits. The reader is compared with
this grammar in both directions: what it reads is well formed, and of all well formed numerals
at the front of a text it reads the longest.

## Implementation notes

A well formed numeral need not end where its spelling ends, since the text after it may go on
with digits, a fraction or an exponent. The equations `read_append_of_exponent`,
`read_append_of_fraction` and `read_append_of_integer` say what the reader makes of each
continuation; everything else about the reader is derived from them.
-/

namespace UnitScan.Numeral

/-- A run of ASCII digits that is not empty. -/
def IsDigits (digits : List Char) : Prop := digits ≠ [] ∧ ∀ c ∈ digits, c.isDigit = true

/-- An exponent of the grammar has a mark, perhaps a sign, and digits. -/
structure Exponent.WellFormed (e : Exponent) : Prop where
  mark : isMark e.mark = true
  sign : ∀ s ∈ e.sign, isSign s = true
  digits : IsDigits e.digits

/-- A numeral of the grammar has digits in each part that is present. -/
structure WellFormed (n : Numeral) : Prop where
  integer : IsDigits n.integer
  fraction : ∀ f ∈ n.fraction, IsDigits f
  exponent : ∀ e ∈ n.exponent, e.WellFormed

/-- Whether no numeral can go on with a character. -/
def stops (c : Char) : Bool := !(c.isDigit || c = '.' || Exponent.isMark c)

/-! ### The characters of a numeral -/

theorem Exponent.isMark_iff {c : Char} : isMark c = true ↔ c = 'e' ∨ c = 'E' := by
  simp only [isMark, Bool.or_eq_true, decide_eq_true_eq]

theorem Exponent.isSign_iff {c : Char} : isSign c = true ↔ c = '+' ∨ c = '-' := by
  simp only [isSign, Bool.or_eq_true, decide_eq_true_eq]

theorem isDigit_of_isMark {c : Char} (h : Exponent.isMark c = true) : c.isDigit = false := by
  rcases Exponent.isMark_iff.mp h with rfl | rfl <;> decide

theorem isDigit_point : '.'.isDigit = false := by decide

theorem ne_point_of_isMark {c : Char} (h : Exponent.isMark c = true) : c ≠ '.' := by
  rintro rfl
  cases h

theorem isSign_of_isDigit {c : Char} (h : c.isDigit = true) : Exponent.isSign c = false := by
  rw [Bool.eq_false_iff]
  intro hsign
  rcases Exponent.isSign_iff.mp hsign with rfl | rfl <;> cases h

theorem stops_iff {c : Char} :
    stops c = true ↔ c.isDigit = false ∧ c ≠ '.' ∧ Exponent.isMark c = false := by
  simp [stops, and_assoc]

/-! ### What is read is well formed -/

theorem isDigits_takeWhile {text : List Char} (h : text.takeWhile Char.isDigit ≠ []) :
    IsDigits (text.takeWhile Char.isDigit) :=
  ⟨h, fun _ hc => List.mem_takeWhile_imp hc⟩

theorem isDigits_readFraction (text : List Char) :
    ∀ f ∈ (readFraction text).1, IsDigits f := by
  fun_cases readFraction text with
  | case2 rest hdigits =>
      rintro f ⟨⟩
      exact isDigits_takeWhile hdigits
  | _ => simp

theorem isSign_readSign (text : List Char) :
    ∀ s ∈ (readSign text).1, Exponent.isSign s = true := by
  fun_cases readSign text with
  | case1 c rest hsign =>
      rintro s ⟨⟩
      exact hsign
  | _ => simp

theorem wellFormed_readExponent (text : List Char) :
    ∀ e ∈ (readExponent text).1, e.WellFormed := by
  fun_cases readExponent text with
  | case2 c rest hmark hdigits =>
      rintro e ⟨⟩
      constructor
      · exact hmark
      · exact isSign_readSign rest
      · exact isDigits_takeWhile hdigits
  | _ => simp

/-- What is read at a digit is a numeral of the grammar. -/
theorem wellFormed_read {c : Char} (hc : c.isDigit = true) (rest : List Char) :
    (read (c :: rest)).1.WellFormed where
  integer := isDigits_takeWhile (by simp [hc])
  fraction := isDigits_readFraction _
  exponent := wellFormed_readExponent _

/-! ### What the reader makes of a spelling -/

section Append

variable {digits : List Char}

theorem takeWhile_digits_append (h : IsDigits digits) (rest : List Char) :
    (digits ++ rest).takeWhile Char.isDigit = digits ++ rest.takeWhile Char.isDigit :=
  List.takeWhile_append_of_pos h.2

theorem dropWhile_digits_append (h : IsDigits digits) (rest : List Char) :
    (digits ++ rest).dropWhile Char.isDigit = rest.dropWhile Char.isDigit :=
  List.dropWhile_append_of_pos h.2

theorem readFraction_append_digits (h : IsDigits digits) (rest : List Char) :
    readFraction ('.' :: (digits ++ rest)) =
      (some (digits ++ rest.takeWhile Char.isDigit), rest.dropWhile Char.isDigit) := by
  simp only [readFraction, takeWhile_digits_append h, dropWhile_digits_append h]
  split
  · next hnil => exact absurd (List.append_eq_nil_iff.mp hnil).1 h.1
  · rfl

theorem readFraction_of_ne_point {c : Char} (h : c ≠ '.') (rest : List Char) :
    readFraction (c :: rest) = (none, c :: rest) := by
  unfold readFraction
  split
  · next heq => exact absurd (List.cons.inj heq).1 h
  · rfl

theorem readSign_append_digits {sign : Option Char}
    (hsign : ∀ s ∈ sign, Exponent.isSign s = true) (h : IsDigits digits) (rest : List Char) :
    readSign (sign.toList ++ (digits ++ rest)) = (sign, digits ++ rest) := by
  cases sign with
  | some s => simp [readSign, hsign s rfl]
  | none =>
      obtain ⟨d, ds, rfl⟩ := List.exists_cons_of_ne_nil h.1
      simp [readSign, isSign_of_isDigit (h.2 d (by simp))]

/-- The digits of an exponent go on as long as there are digits. -/
theorem readExponent_append_spelling {e : Exponent} (h : e.WellFormed) (rest : List Char) :
    readExponent (e.spelling ++ rest) =
      (some { e with digits := e.digits ++ rest.takeWhile Char.isDigit },
        rest.dropWhile Char.isDigit) := by
  obtain ⟨mark, sign, digits⟩ := e
  have hread := readSign_append_digits h.sign h.digits rest
  simp only [Exponent.spelling, Exponent.unmarked, List.cons_append, List.append_assoc,
    readExponent, h.mark, if_true, hread, takeWhile_digits_append h.digits,
    dropWhile_digits_append h.digits]
  split
  · next hnil => exact absurd (List.append_eq_nil_iff.mp hnil).1 h.digits.1
  · rfl

end Append

/-! ### Reading a spelling with something after it

After the exponent only its digits go on. After a fraction without an exponent the digits may
go on, and then an exponent may follow. After the integer alone all three may follow.
-/

section Continuations

variable {integer f : List Char} {fraction : Option (List Char)} {e : Exponent}

theorem takeWhile_digits_of_head {digits : List Char} (h : IsDigits digits) {c : Char}
    (hc : c.isDigit = false) (rest : List Char) :
    (digits ++ c :: rest).takeWhile Char.isDigit = digits := by
  apply takeWhile_run_append h.2
  simpa using hc

theorem dropWhile_digits_of_head {digits : List Char} (h : IsDigits digits) {c : Char}
    (hc : c.isDigit = false) (rest : List Char) :
    (digits ++ c :: rest).dropWhile Char.isDigit = c :: rest := by
  apply dropWhile_run_append h.2
  simpa using hc

theorem read_append_of_exponent (h : WellFormed ⟨integer, fraction, some e⟩)
    (rest : List Char) :
    read (spelling ⟨integer, fraction, some e⟩ ++ rest) =
      (⟨integer, fraction, some { e with digits := e.digits ++ rest.takeWhile Char.isDigit }⟩,
        rest.dropWhile Char.isDigit) := by
  have he := h.exponent e rfl
  have hmark := isDigit_of_isMark he.mark
  have hread := readExponent_append_spelling he rest
  simp only [Exponent.spelling, List.cons_append] at hread
  cases fraction with
  | none =>
      simp only [read, spelling, fractionSpelling, exponentSpelling, Exponent.spelling,
        Option.elim_none, Option.elim_some, List.append_nil, List.append_assoc,
        List.cons_append, takeWhile_digits_of_head h.integer hmark,
        dropWhile_digits_of_head h.integer hmark,
        readFraction_of_ne_point (ne_point_of_isMark he.mark), hread]
  | some f =>
      have hfraction : readFraction ('.' :: (f ++ e.mark :: (e.unmarked ++ rest))) =
          (some f, e.mark :: (e.unmarked ++ rest)) := by
        rw [readFraction_append_digits (h.fraction f rfl)]
        simp [hmark]
      simp only [read, spelling, fractionSpelling, exponentSpelling, Exponent.spelling,
        Option.elim_some, List.append_assoc, List.cons_append,
        takeWhile_digits_of_head h.integer isDigit_point,
        dropWhile_digits_of_head h.integer isDigit_point, hfraction, hread]

theorem read_append_of_fraction (h : WellFormed ⟨integer, some f, none⟩) (rest : List Char) :
    read (spelling ⟨integer, some f, none⟩ ++ rest) =
      (⟨integer, some (f ++ rest.takeWhile Char.isDigit),
          (readExponent (rest.dropWhile Char.isDigit)).1⟩,
        (readExponent (rest.dropWhile Char.isDigit)).2) := by
  have hf := h.fraction f rfl
  simp only [read, spelling, fractionSpelling, exponentSpelling, Option.elim_some,
    Option.elim_none, List.append_nil, List.append_assoc, List.cons_append,
    takeWhile_digits_of_head h.integer isDigit_point,
    dropWhile_digits_of_head h.integer isDigit_point, readFraction_append_digits hf]

theorem read_append_of_integer (h : WellFormed ⟨integer, none, none⟩) (rest : List Char) :
    read (spelling ⟨integer, none, none⟩ ++ rest) =
      (⟨integer ++ rest.takeWhile Char.isDigit,
          (readFraction (rest.dropWhile Char.isDigit)).1,
          (readExponent (readFraction (rest.dropWhile Char.isDigit)).2).1⟩,
        (readExponent (readFraction (rest.dropWhile Char.isDigit)).2).2) := by
  simp only [read, spelling, fractionSpelling, exponentSpelling, Option.elim_none,
    List.append_nil, takeWhile_digits_append h.integer, dropWhile_digits_append h.integer]

end Continuations

/-! ### The longest numeral -/

theorem readFraction_suffix (text : List Char) : (readFraction text).2 <:+ text :=
  ⟨_, readFraction_append text⟩

theorem readExponent_suffix (text : List Char) : (readExponent text).2 <:+ text :=
  ⟨_, readExponent_append text⟩

/-- The reader passes at least every well formed numeral at the front of a text. -/
theorem read_suffix_of_wellFormed {n : Numeral} (h : n.WellFormed) (rest : List Char) :
    (read (n.spelling ++ rest)).2 <:+ rest := by
  have hdigits : rest.dropWhile Char.isDigit <:+ rest := List.dropWhile_suffix _
  obtain ⟨integer, fraction, exponent⟩ := n
  cases exponent with
  | some e =>
      rw [read_append_of_exponent h]
      exact hdigits
  | none =>
      cases fraction with
      | some f =>
          rw [read_append_of_fraction h]
          exact (readExponent_suffix _).trans hdigits
      | none =>
          rw [read_append_of_integer h]
          exact ((readExponent_suffix _).trans (readFraction_suffix _)).trans hdigits

/-- No well formed numeral at the front of a text is longer than the one that is read. -/
theorem length_le_of_prefix {n : Numeral} (h : n.WellFormed) {text : List Char}
    (hpre : n.spelling <+: text) : n.spelling.length ≤ (read text).1.spelling.length := by
  obtain ⟨rest, rfl⟩ := hpre
  have hlen := congrArg List.length (read_append (n.spelling ++ rest))
  have hle := (read_suffix_of_wellFormed h rest).length_le
  simp only [List.length_append] at hlen
  omega

section Stops

variable {rest : List Char} (hrest : ∀ c ∈ rest.head?, stops c = true)

include hrest

theorem isDigit_of_stops : ∀ c ∈ rest.head?, c.isDigit = false := by
  intro c hc
  exact (stops_iff.mp (hrest c hc)).1

theorem readFraction_of_stops : readFraction rest = (none, rest) := by
  cases rest with
  | nil => rfl
  | cons c rest =>
      apply readFraction_of_ne_point
      exact (stops_iff.mp (hrest c rfl)).2.1

theorem readExponent_of_stops : readExponent rest = (none, rest) := by
  cases rest with
  | nil => rfl
  | cons c rest => simp [readExponent, (stops_iff.mp (hrest c rfl)).2.2]

/-- A well formed numeral is read back where nothing goes on with it. -/
theorem read_spelling_append {n : Numeral} (h : n.WellFormed) :
    read (n.spelling ++ rest) = (n, rest) := by
  have htake := takeWhile_of_stop (isDigit_of_stops hrest)
  have hdrop := dropWhile_of_stop (isDigit_of_stops hrest)
  have hfraction := readFraction_of_stops hrest
  have hexponent := readExponent_of_stops hrest
  obtain ⟨integer, fraction, exponent⟩ := n
  cases exponent with
  | some e => simp [read_append_of_exponent h, htake, hdrop]
  | none =>
      cases fraction with
      | some f => simp [read_append_of_fraction h, htake, hdrop, hexponent]
      | none => simp [read_append_of_integer h, htake, hdrop, hfraction, hexponent]

end Stops

/-- The spelling of a well formed numeral determines its parts. -/
theorem eq_of_spelling_eq {n m : Numeral} (hn : n.WellFormed) (hm : m.WellFormed)
    (h : n.spelling = m.spelling) : n = m := by
  have hread : read (n.spelling ++ []) = read (m.spelling ++ []) := by rw [h]
  rw [read_spelling_append (by simp) hn, read_spelling_append (by simp) hm] at hread
  exact (Prod.mk.inj hread).1

/-- A well formed numeral starts with a digit. -/
theorem WellFormed.spelling_eq_cons {n : Numeral} (h : n.WellFormed) :
    ∃ c rest, n.spelling = c :: rest ∧ c.isDigit = true := by
  obtain ⟨d, ds, hds⟩ := List.exists_cons_of_ne_nil h.integer.1
  refine ⟨d, ds ++ fractionSpelling n.fraction ++ exponentSpelling n.exponent, ?_, ?_⟩
  · simp [spelling, hds]
  · exact h.integer.2 d (by simp [hds])

end UnitScan.Numeral

import UnitScan.Policy
import Mathlib.Data.List.TakeWhile

/-!
# The classes of characters of a policy

What the absence of faults says about single characters. The newline, the nine operators and
the ASCII digits are no letters, and no policy gives them another part in identifiers, comments
or, for the newline, among the blanks. So the first character of a lexeme decides what kind of
lexeme it is.

The scanner takes characters of one class in runs. The last section says where a run ends.
-/

namespace UnitScan

namespace CodeRanges

theorem covers_of_lt_first {first last n : Nat} {later : CodeRanges} (h : n < first) :
    covers ((first, last) :: later) n = false := by
  rw [covers, if_pos h]

theorem covers_of_mem_first {first last n : Nat} {later : CodeRanges} (hge : first ≤ n)
    (hle : n ≤ last) : covers ((first, last) :: later) n = true := by
  rw [covers, if_neg (Nat.not_lt.mpr hge), if_pos hle]

end CodeRanges

namespace Character

/-- An ASCII digit comes before the first letter of the table. -/
theorem isLetter_of_isDigit {c : Char} (h : c.isDigit = true) : isLetter c = false := by
  have hle : c.toNat ≤ 0x39 := (Char.isDigit_iff_toNat.mp h).2
  have hlt : c.toNat < 0x41 := by omega
  exact CodeRanges.covers_of_lt_first hlt

/-- The ASCII digits are the first range of the decimal digits. -/
theorem isDigit_of_isDigit {c : Char} (h : c.isDigit = true) : isDigit c = true := by
  obtain ⟨hge, hle⟩ := Char.isDigit_iff_toNat.mp h
  have hdecimal : isDecimal c = true := CodeRanges.covers_of_mem_first hge hle
  simp [isDigit, hdecimal]

theorem isLetter_operator (o : Operator) : isLetter o.char = false := by
  cases o <;> decide

end Character

namespace Operator

theorem isDigit_char (o : Operator) : o.char.isDigit = false := by
  cases o <;> decide

theorem char_ne_newline (o : Operator) : o.char ≠ '\n' := by
  cases o <;> decide

@[simp] theorem isChar_char (o : Operator) : isChar o.char = true := by
  simp [isChar]

end Operator

namespace Policy

/-! ### The checks of the settings -/

namespace Settings

variable {s : Settings}

/-- Settings are free of faults exactly when all six checks find none. -/
theorem fault?_eq_none_iff :
    s.fault? = none ↔
      s.newlineFault? = none ∧ s.commentFault? = none ∧ s.operatorFault? = none ∧
        s.blankFault? = none ∧ s.digitFault? = none ∧ s.markerFault? = none := by
  simp only [fault?, Option.or_eq_none_iff]

theorem newlineFault?_eq_none_iff : s.newlineFault? = none ↔ '\n' ∉ s.blanks.toList := by
  simp [newlineFault?]

theorem commentFault?_eq_none_iff :
    s.commentFault? = none ↔ ∀ m, s.comment = some m → m.toList.length = 1 := by
  cases hm : s.comment with
  | none => simp [commentFault?, hm]
  | some m => simp [commentFault?, hm, String.length_toList]

theorem operatorFault?_eq_none_iff :
    s.operatorFault? = none ↔ ∀ o : Operator, o.char ∉ s.special := by
  simp only [operatorFault?, ite_eq_right_iff, reduceCtorEq, imp_false, List.any_eq_true,
    not_exists, not_and]
  constructor
  · intro h o hmem
    exact h o.char hmem o.isChar_char
  · intro h c hmem hchar
    obtain ⟨o, ho⟩ := Option.isSome_iff_exists.mp hchar
    exact h o (Operator.char_of_ofChar? ho ▸ hmem)

theorem blankFault?_eq_none_iff :
    s.blankFault? = none ↔ ∀ c, s.separates c = true → c ∉ s.special := by
  simp only [blankFault?, ite_eq_right_iff, reduceCtorEq, imp_false, List.any_eq_true,
    not_exists, not_and]
  constructor
  · intro h c hc hmem
    exact h c hmem hc
  · intro h c hmem hc
    exact h c hc hmem

theorem digitFault?_eq_none_iff :
    s.digitFault? = none ↔ ∀ c, Character.isDigit c = true → c ∉ s.starters.toList := by
  simp only [digitFault?, ite_eq_right_iff, reduceCtorEq, imp_false, List.any_eq_true,
    not_exists, not_and]
  constructor
  · intro h c hc hmem
    exact h c hmem hc
  · intro h c hmem hc
    exact h c hc hmem

theorem markerFault?_eq_none_iff :
    s.markerFault? = none ↔ ∀ c ∈ s.commentChars, s.reservedFromComment c = false := by
  cases hm : s.comment with
  | none => simp [markerFault?, commentChars, hm]
  | some m =>
      rw [markerFault?, commentChars, hm, Option.bind_some, Option.elim_some, ite_eq_right_iff]
      simp only [reduceCtorEq, imp_false, List.any_eq_true, not_exists, not_and,
        Bool.not_eq_true]

end Settings

/-! ### What the special characters are not -/

section Special

variable (p : Policy)

/-- The newline is never skipped between tokens. -/
theorem isBlank_newline : p.isBlank '\n' = false := by
  have h := Settings.newlineFault?_eq_none_iff.mp (Settings.fault?_eq_none_iff.mp p.faultless).1
  simp [isBlank, h]

theorem operator_notMem_special (o : Operator) : o.char ∉ p.settings.special := by
  have h := (Settings.fault?_eq_none_iff.mp p.faultless).2.2.1
  exact Settings.operatorFault?_eq_none_iff.mp h o

theorem separator_notMem_special {c : Char} (hc : p.settings.separates c = true) :
    c ∉ p.settings.special := by
  have h := (Settings.fault?_eq_none_iff.mp p.faultless).2.2.2.1
  exact Settings.blankFault?_eq_none_iff.mp h c hc

theorem newline_notMem_special : '\n' ∉ p.settings.special := by
  apply p.separator_notMem_special
  simp [Settings.separates]

theorem blank_notMem_special {c : Char} (hc : p.isBlank c = true) :
    c ∉ p.settings.special := by
  apply p.separator_notMem_special
  rw [Settings.separates, Bool.or_eq_true]
  exact Or.inr hc

variable {p} {c : Char}

/-- The comment marker of a policy is the one character of its setting. -/
theorem commentChars_of_marker (h : p.marker = some c) : p.settings.commentChars = [c] := by
  have hsingle := Settings.commentFault?_eq_none_iff.mp
    (Settings.fault?_eq_none_iff.mp p.faultless).2.1
  cases hm : p.settings.comment with
  | none => simp [marker, Settings.commentChars, hm] at h
  | some m =>
      obtain ⟨d, hd⟩ := List.length_eq_one_iff.mp (hsingle m hm)
      have hcd : d = c := by simpa [marker, Settings.commentChars, hm, hd] using h
      simp [Settings.commentChars, hm, hd, hcd]

theorem mem_special_of_marker (h : p.marker = some c) : c ∈ p.settings.special := by
  simp [Settings.special, commentChars_of_marker h]

theorem isBlank_of_marker (h : p.marker = some c) : p.isBlank c = false := by
  rw [Bool.eq_false_iff]
  intro hblank
  exact p.blank_notMem_special hblank (mem_special_of_marker h)

theorem reservedFromComment_of_marker (h : p.marker = some c) :
    p.settings.reservedFromComment c = false := by
  have hfault := (Settings.fault?_eq_none_iff.mp p.faultless).2.2.2.2.2
  apply Settings.markerFault?_eq_none_iff.mp hfault
  simp [commentChars_of_marker h]

theorem startsIdent_of_notMem (hl : Character.isLetter c = false)
    (hs : c ∉ p.settings.special) : p.startsIdent c = false := by
  simp only [Settings.special, List.mem_append, not_or] at hs
  simp [startsIdent, hl, hs.1.1]

theorem continuesIdent_of_notMem (hl : Character.isLetter c = false)
    (hd : Character.isDigit c = false) (hs : c ∉ p.settings.special) :
    p.continuesIdent c = false := by
  simp only [Settings.special, List.mem_append, not_or] at hs
  simp [continuesIdent, hl, hd, hs.1.2]

end Special

/-- A blank is different from everything that is no blank. -/
theorem ne_of_isBlank {p : Policy} {c d : Char} (hc : p.isBlank c = true)
    (hd : p.isBlank d = false) : d ≠ c := by
  rintro rfl
  rw [hd] at hc
  cases hc

theorem startsIdent_newline (p : Policy) : p.startsIdent '\n' = false :=
  startsIdent_of_notMem (by decide) p.newline_notMem_special

theorem continuesIdent_newline (p : Policy) : p.continuesIdent '\n' = false :=
  continuesIdent_of_notMem (by decide) (by decide) p.newline_notMem_special

theorem startsIdent_operator (p : Policy) (o : Operator) : p.startsIdent o.char = false :=
  startsIdent_of_notMem (Character.isLetter_operator o) (p.operator_notMem_special o)

/-- No ASCII digit starts an identifier. -/
theorem startsIdent_of_isDigit (p : Policy) {c : Char} (hc : c.isDigit = true) :
    p.startsIdent c = false := by
  have h := (Settings.fault?_eq_none_iff.mp p.faultless).2.2.2.2.1
  have hmem := Settings.digitFault?_eq_none_iff.mp h c (Character.isDigit_of_isDigit hc)
  simp [startsIdent, Character.isLetter_of_isDigit hc, hmem]

/-! ### What does not open a comment -/

theorem marker_ne_newline (p : Policy) : p.marker ≠ some '\n' := by
  intro h
  exact p.newline_notMem_special (mem_special_of_marker h)

theorem newline_ne_of_marker {p : Policy} {m : Char} (h : p.marker = some m) : '\n' ≠ m := by
  rintro rfl
  exact p.marker_ne_newline h

theorem marker_ne_operator (p : Policy) (o : Operator) : p.marker ≠ some o.char := by
  intro h
  exact p.operator_notMem_special o (mem_special_of_marker h)

theorem marker_ne_of_isDigit (p : Policy) {c : Char} (hc : c.isDigit = true) :
    p.marker ≠ some c := by
  intro h
  have hreserved := reservedFromComment_of_marker h
  simp [Settings.reservedFromComment, Character.isAlphanumeric,
    Character.isDigit_of_isDigit hc] at hreserved

/-- A blank that is neither a letter nor a digit ends an identifier. -/
theorem continuesIdent_of_isBlank {p : Policy} {c : Char} (hb : p.isBlank c = true)
    (hl : Character.isLetter c = false) (hd : Character.isDigit c = false) :
    p.continuesIdent c = false :=
  continuesIdent_of_notMem hl hd (p.blank_notMem_special hb)

end Policy

/-! ### Runs of members of one class -/

section Runs

variable {α : Type} {property : α → Bool} {run rest : List α}

theorem takeWhile_of_stop (hrest : ∀ c ∈ rest.head?, property c = false) :
    rest.takeWhile property = [] := by
  cases rest with
  | nil => rfl
  | cons c rest => simp [hrest c rfl]

theorem dropWhile_of_stop (hrest : ∀ c ∈ rest.head?, property c = false) :
    rest.dropWhile property = rest := by
  cases rest with
  | nil => rfl
  | cons c rest => simp [hrest c rfl]

theorem stop_dropWhile : ∀ c ∈ (rest.dropWhile property).head?, property c = false := by
  intro c hc
  have hstop := List.head?_dropWhile_not property rest
  rw [Option.mem_def.mp hc] at hstop
  exact hstop

/-- A list without an element is a run of what differs from the element. -/
theorem decide_ne_of_notMem [DecidableEq α] {a : α} (h : a ∉ run) :
    ∀ c ∈ run, decide (c ≠ a) = true := by
  intro c hc
  apply decide_eq_true
  rintro rfl
  exact h hc

/-- A list can be cut immediately before the first place of an element, or behind its end if the
element has no place in it. -/
theorem exists_eq_append_notMem [DecidableEq α] (a : α) (text : List α) :
    ∃ before after, text = before ++ after ∧ a ∉ before ∧ ∀ c ∈ after.head?, c = a := by
  refine ⟨text.takeWhile (· ≠ a), text.dropWhile (· ≠ a), ?_, ?_, ?_⟩
  · exact List.takeWhile_append_dropWhile.symm
  · intro hmem
    have hne := List.mem_takeWhile_imp hmem
    exact of_decide_eq_true hne rfl
  · intro c hc
    have hstop := stop_dropWhile c hc
    exact not_not.mp (of_decide_eq_false hstop)

/-- A run ends before the first character that is not of its class. -/
theorem takeWhile_run_append (hrun : ∀ c ∈ run, property c = true)
    (hrest : ∀ c ∈ rest.head?, property c = false) :
    (run ++ rest).takeWhile property = run := by
  rw [List.takeWhile_append_of_pos hrun, takeWhile_of_stop hrest, List.append_nil]

theorem dropWhile_run_append (hrun : ∀ c ∈ run, property c = true)
    (hrest : ∀ c ∈ rest.head?, property c = false) :
    (run ++ rest).dropWhile property = rest := by
  rw [List.dropWhile_append_of_pos hrun, dropWhile_of_stop hrest]

/-- A run and what follows it are told apart by the class of the run. -/
theorem run_append_inj {run' rest' : List α} (hrun : ∀ c ∈ run, property c = true)
    (hrest : ∀ c ∈ rest.head?, property c = false) (hrun' : ∀ c ∈ run', property c = true)
    (hrest' : ∀ c ∈ rest'.head?, property c = false) (h : run ++ rest = run' ++ rest') :
    run = run' ∧ rest = rest' := by
  have htake := congrArg (List.takeWhile property) h
  have hdrop := congrArg (List.dropWhile property) h
  rw [takeWhile_run_append hrun hrest, takeWhile_run_append hrun' hrest'] at htake
  rw [dropWhile_run_append hrun hrest, dropWhile_run_append hrun' hrest'] at hdrop
  exact ⟨htake, hdrop⟩

/-- What follows a text does not change a run in it, if the run cannot go on there. -/
theorem takeWhile_append_stop {text : List α} (hrest : ∀ c ∈ rest.head?, property c = false) :
    (text ++ rest).takeWhile property = text.takeWhile property := by
  induction text with
  | nil => exact takeWhile_of_stop hrest
  | cons c text ih =>
      by_cases hc : property c = true
      · rw [List.cons_append, List.takeWhile_cons_of_pos hc, List.takeWhile_cons_of_pos hc, ih]
      · rw [List.cons_append, List.takeWhile_cons_of_neg hc, List.takeWhile_cons_of_neg hc]

theorem dropWhile_append_stop {text : List α} (hrest : ∀ c ∈ rest.head?, property c = false) :
    (text ++ rest).dropWhile property = text.dropWhile property ++ rest := by
  induction text with
  | nil => exact dropWhile_of_stop hrest
  | cons c text ih =>
      by_cases hc : property c = true
      · rw [List.cons_append, List.dropWhile_cons_of_pos hc, List.dropWhile_cons_of_pos hc, ih]
      · rw [List.cons_append, List.dropWhile_cons_of_neg hc, List.dropWhile_cons_of_neg hc,
          List.cons_append]

/-- A run that ends within a text is the same when the text goes on. -/
theorem takeWhile_append_of_dropWhile_ne_nil {text : List α}
    (h : text.dropWhile property ≠ []) (more : List α) :
    (text ++ more).takeWhile property = text.takeWhile property := by
  have hsum := congrArg List.length (List.takeWhile_append_dropWhile (p := property) (l := text))
  have hpos := List.length_pos_iff.mpr h
  rw [List.length_append] at hsum
  rw [List.takeWhile_append, if_neg (by omega)]

theorem dropWhile_append_of_dropWhile_ne_nil {text : List α}
    (h : text.dropWhile property ≠ []) (more : List α) :
    (text ++ more).dropWhile property = text.dropWhile property ++ more := by
  rw [List.dropWhile_append, if_neg (by rwa [List.isEmpty_iff])]

end Runs

end UnitScan

import UnitScan.Command.Outcome
import UnitScan.Proofs.CharacterClasses

/-!
# Escape codes end on their line

No part of a terminal escape code is a newline, so a code that is taken out of a text never
reaches from one line into the next. Texts that are joined by a newline are printed as they are
printed apart.

## Implementation notes

`FiltersLines` has the two facts about printing that are used anywhere else. They hold as well of a
filter that takes out fewer codes, as long as a code begins with the escape character and has no
newline in it.
-/

namespace UnitScan

namespace Text

theorem afterEscapeCode?_cons {c : Char} (h : c ≠ '\x1b') (rest : List Char) :
    afterEscapeCode? (c :: rest) = none := by
  unfold afterEscapeCode?
  split
  · next heq => exact absurd (List.cons.inj heq).1 h
  · rfl

theorem withoutEscapeCodes_of_eq_some {text rest : List Char}
    (h : afterEscapeCode? text = some rest) :
    withoutEscapeCodes text = withoutEscapeCodes rest := by
  rw [withoutEscapeCodes]
  split
  · next hsome => rw [Option.some.inj (hsome.symm.trans h)]
  · next hnone => rw [h] at hnone; cases hnone

theorem withoutEscapeCodes_cons_of_eq_none {c : Char} {rest : List Char}
    (h : afterEscapeCode? (c :: rest) = none) :
    withoutEscapeCodes (c :: rest) = c :: withoutEscapeCodes rest := by
  rw [withoutEscapeCodes]
  split
  · next hsome => rw [h] at hsome; cases hsome
  · rfl

theorem withoutEscapeCodes_nil : withoutEscapeCodes [] = [] := by
  rw [withoutEscapeCodes]
  rfl

/-- Nothing is taken out of a text without the escape character. -/
theorem withoutEscapeCodes_of_notMem {text : List Char} (h : '\x1b' ∉ text) :
    withoutEscapeCodes text = text := by
  induction text with
  | nil => exact withoutEscapeCodes_nil
  | cons c text ih =>
    obtain ⟨hne, hnotMem⟩ := not_or.mp (mt List.mem_cons.mpr h)
    have hnone := afterEscapeCode?_cons (Ne.symm hne) text
    rw [withoutEscapeCodes_cons_of_eq_none hnone, ih hnotMem]

/-! ### Newlines -/

/-- A newline after a text neither completes an escape code nor takes part in one. -/
theorem afterEscapeCode?_append_newline (before after : List Char) :
    afterEscapeCode? (before ++ '\n' :: after) =
      (afterEscapeCode? before).map (· ++ '\n' :: after) := by
  match before with
  | [] => exact afterEscapeCode?_cons (by decide) after
  | [c] => simp [afterEscapeCode?]
  | c :: d :: body =>
    by_cases hopens : c = '\x1b' ∧ d = '['
    · obtain ⟨rfl, rfl⟩ := hopens
      have hparameter : ∀ x ∈ ('\n' :: after).head?, isCodeParameter x = false := by
        rintro _ ⟨⟩
        decide
      have hintermediate : ∀ x ∈ ('\n' :: after).head?, isCodeIntermediate x = false := by
        rintro _ ⟨⟩
        decide
      have hfinal : isCodeFinal '\n' = false := by decide
      simp only [afterEscapeCode?, List.cons_append, dropWhile_append_stop hparameter,
        dropWhile_append_stop hintermediate]
      cases (body.dropWhile isCodeParameter).dropWhile isCodeIntermediate with
      | nil => simp [hfinal]
      | cons last rest => by_cases hlast : isCodeFinal last = true <;> simp [hlast]
    · have hnone : ∀ rest, afterEscapeCode? (c :: d :: rest) = none := by
        intro rest
        unfold afterEscapeCode?
        split
        · next hcode =>
          obtain ⟨hfirst, hlater⟩ := List.cons.inj hcode
          exact absurd ⟨hfirst, (List.cons.inj hlater).1⟩ hopens
        · rfl
      rw [hnone, List.cons_append, List.cons_append, hnone, Option.map_none]

/-- The codes in what stands before a newline and in what stands after it are taken out apart. -/
theorem withoutEscapeCodes_append_newline (before after : List Char) :
    withoutEscapeCodes (before ++ '\n' :: after) =
      withoutEscapeCodes before ++ '\n' :: withoutEscapeCodes after := by
  fun_induction withoutEscapeCodes before with
  | case1 before rest hsome ih =>
      have hcode : afterEscapeCode? (before ++ '\n' :: after) = some (rest ++ '\n' :: after) := by
        rw [afterEscapeCode?_append_newline, hsome, Option.map_some]
      rw [withoutEscapeCodes_of_eq_some hcode, ih]
  | case2 hnone =>
      exact withoutEscapeCodes_cons_of_eq_none (afterEscapeCode?_cons (by decide) after)
  | case3 c rest hnone ih =>
      have hcode : afterEscapeCode? (c :: (rest ++ '\n' :: after)) = none := by
        rw [← List.cons_append, afterEscapeCode?_append_newline, hnone, Option.map_none]
      rw [List.cons_append, withoutEscapeCodes_cons_of_eq_none hcode, ih, List.cons_append]

/-! ### Printed texts -/

/-- A filter takes nothing out of a text without an escape character, and it goes through the lines
of a text one by one. -/
structure FiltersLines (filter : List Char → List Char) : Prop where
  keeps : ∀ text, '\x1b' ∉ text → filter text = text
  apart : ∀ before after,
    filter (before ++ '\n' :: after) = filter before ++ '\n' :: filter after

theorem filtersLines_withoutEscapeCodes : FiltersLines withoutEscapeCodes where
  keeps _ := withoutEscapeCodes_of_notMem
  apart := withoutEscapeCodes_append_newline

namespace FiltersLines

variable {filter : List Char → List Char}

theorem nil (h : FiltersLines filter) : filter [] = [] := h.keeps [] List.not_mem_nil

theorem newline_cons (h : FiltersLines filter) (text : List Char) :
    filter ('\n' :: text) = '\n' :: filter text := by
  rw [← List.nil_append ('\n' :: text), h.apart, h.nil, List.nil_append]

end FiltersLines

end Text

namespace Command.Emission

open Text (filtersLines_withoutEscapeCodes)

@[simp] theorem plain_empty : plain "" = "" := by
  rw [plain, String.toList_empty, filtersLines_withoutEscapeCodes.nil, String.ofList_nil]

theorem plain_of_notMem {text : String} (h : '\x1b' ∉ text.toList) : plain text = text := by
  rw [plain, filtersLines_withoutEscapeCodes.keeps _ h, String.ofList_toList]

/-- Lines are printed one by one. -/
theorem plain_append_newline_append (s t : String) :
    plain (s ++ "\n" ++ t) = plain s ++ "\n" ++ plain t := by
  apply String.toList_inj.mp
  have h := filtersLines_withoutEscapeCodes.apart s.toList t.toList
  simpa [plain] using h

theorem plain_append_newline (s : String) : plain (s ++ "\n") = plain s ++ "\n" := by
  have h := plain_append_newline_append s ""
  rwa [plain_empty, String.append_empty, String.append_empty] at h

theorem plain_append_empty_line_append (s t : String) :
    plain (s ++ "\n\n" ++ t) = plain s ++ "\n\n" ++ plain t := by
  apply String.toList_inj.mp
  have h := filtersLines_withoutEscapeCodes.apart s.toList ('\n' :: t.toList)
  rw [filtersLines_withoutEscapeCodes.newline_cons] at h
  simpa [plain] using h

end Command.Emission

end UnitScan

import UnitScan.Position
import UnitScan.Text.Layout
import Mathlib.Data.List.Induction

/-!
# Positions and lines

The position after a text is computed here from the text alone: the newlines tell its line, and
what follows the last newline tells its column. `getElem?_lines_append` finds the place between
two parts of a text in the list of its lines.
-/

namespace UnitScan

namespace Text

/-- What follows the last newline of a text, which is all of it when it has no newline. -/
def lastLine (text : List Char) : List Char := (text.reverse.takeWhile (· ≠ '\n')).reverse

@[simp] theorem lastLine_append_newline (text : List Char) : lastLine (text ++ ['\n']) = [] := by
  simp [lastLine]

theorem lastLine_append_of_ne {c : Char} (h : c ≠ '\n') (text : List Char) :
    lastLine (text ++ [c]) = lastLine text ++ [c] := by
  simp [lastLine, h]

/-- Characters without a newline are added to the last line. -/
theorem lastLine_append_of_notMem {line : List Char} (h : '\n' ∉ line) (text : List Char) :
    lastLine (text ++ line) = lastLine text ++ line := by
  have hline : ∀ c ∈ line.reverse, decide (c ≠ '\n') = true := by
    intro c hc
    apply decide_eq_true
    rintro rfl
    exact h (List.mem_reverse.mp hc)
  rw [lastLine, List.reverse_append, List.takeWhile_append_of_pos hline, List.reverse_append,
    List.reverse_reverse, lastLine]

theorem lines_newline_cons (text : List Char) : lines ('\n' :: text) = [] :: lines text := by
  simp [lines, List.splitOn_cons_eq_if_modifyHead]

theorem lines_cons_of_ne {c : Char} (h : c ≠ '\n') (text : List Char) :
    lines (c :: text) = (lines text).modifyHead (List.cons c) := by
  simp [lines, List.splitOn_cons_eq_if_modifyHead, h]

theorem lines_append_newline_cons (before after : List Char) :
    lines (before ++ '\n' :: after) = lines before ++ lines after :=
  List.splitOn_append_cons_self before after

/-- A text has one line more than it has newlines. -/
theorem length_lines (text : List Char) : (lines text).length = text.count '\n' + 1 := by
  induction text with
  | nil => rfl
  | cons c text ih =>
      by_cases hc : c = '\n'
      · subst hc
        rw [lines_newline_cons, List.length_cons, ih, List.count_cons_self]
      · rw [lines_cons_of_ne hc, List.length_modifyHead, ih, List.count_cons_of_ne hc]

theorem head?_lines (text : List Char) :
    (lines text)[0]? = some (text.takeWhile (· ≠ '\n')) := by
  induction text with
  | nil => rfl
  | cons c text ih =>
      by_cases hc : c = '\n'
      · subst hc
        rw [lines_newline_cons]
        simp
      · rw [lines_cons_of_ne hc, List.getElem?_modifyHead, ih]
        simp [hc]

/-- The line that a place in a text belongs to holds what stands before the place and after the
last newline, and then what stands after the place and before the next newline. -/
theorem getElem?_lines_append (before after : List Char) :
    (lines (before ++ after))[before.count '\n']? =
      some (lastLine before ++ after.takeWhile (· ≠ '\n')) := by
  induction before using List.reverseRecOn generalizing after with
  | nil => exact head?_lines after
  | append_singleton before c ih =>
      rw [List.append_assoc, List.singleton_append]
      by_cases hc : c = '\n'
      · subst hc
        have hcount : (before ++ ['\n']).count '\n' = (lines before).length := by
          rw [length_lines, List.count_append, List.count_singleton_self]
        rw [lines_append_newline_cons, hcount, List.getElem?_append_right (Nat.le_refl _),
          Nat.sub_self, head?_lines, lastLine_append_newline, List.nil_append]
      · have hcount : (before ++ [c]).count '\n' = before.count '\n' := by
          rw [List.count_append, List.count_singleton]
          simp [hc]
        rw [hcount, ih, lastLine_append_of_ne hc, List.takeWhile_cons]
        simp [hc]

end Text

namespace Position

/-- The position of the place before which the given number of characters of a text stand. -/
def atOffset (text : List Char) (offset : Nat) : Position where
  line := 1 + (text.take offset).count '\n'
  column := 1 + (Text.lastLine (text.take offset)).length

/-- Following the characters of a text one by one counts its newlines and the characters after
the last of them. -/
theorem start_after (text : List Char) :
    start.after text = ⟨1 + text.count '\n', 1 + (Text.lastLine text).length⟩ := by
  induction text using List.reverseRecOn with
  | nil => rfl
  | append_singleton text c ih =>
      rw [after_append, ih, after_cons, after_nil, advance]
      by_cases hc : c = '\n'
      · subst hc
        simp only [if_true, List.count_append, List.count_singleton_self,
          Text.lastLine_append_newline, List.length_nil]
        push_cast
        rfl
      · rw [if_neg hc, Text.lastLine_append_of_ne hc, List.length_append, List.count_append]
        simp [hc]
        omega

theorem start_after_take (text : List Char) (offset : Nat) :
    start.after (text.take offset) = atOffset text offset :=
  start_after _

end Position

end UnitScan

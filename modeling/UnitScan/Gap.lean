import UnitScan.Policy

/-!
# Gaps between tokens

A gap is what the scanner skips before it looks for a token. It is made of pieces: single
blanks, comments up to the end of their line, and line continuations. `Gap.split` takes the
longest gap off the front of a text; `Gap.split_append` says that nothing is lost.
-/

namespace UnitScan.Gap

/-- The first piece of a gap at the front of a text, and what follows it. A blank comes before
a comment, and a comment before a continuation, where one character could be either. -/
def piece? (p : Policy) : List Char → Option (List Char × List Char)
  | [] => none
  | c :: rest =>
    if p.isBlank c then some ([c], rest)
    else if p.marker = some c then
      some (c :: rest.takeWhile (· ≠ '\n'), rest.dropWhile (· ≠ '\n'))
    else if p.settings.continuation ∧ c = '\\' then
      match rest with
      | '\n' :: rest => some ([c, '\n'], rest)
      | _ => none
    else none

theorem piece?_append {p : Policy} {text piece rest : List Char}
    (h : piece? p text = some (piece, rest)) : piece ++ rest = text := by
  unfold piece? at h
  split at h
  · cases h
  · split at h
    · cases h
      rfl
    · split at h
      · cases h
        simp
      · split at h
        · split at h
          · cases h
            rfl
          · cases h
        · cases h

theorem piece?_ne_nil {p : Policy} {text piece rest : List Char}
    (h : piece? p text = some (piece, rest)) : piece ≠ [] := by
  unfold piece? at h
  split at h
  · cases h
  · split at h
    · cases h
      simp
    · split at h
      · cases h
        simp
      · split at h
        · split at h
          · cases h
            simp
          · cases h
        · cases h

theorem length_piece?_lt {p : Policy} {text piece rest : List Char}
    (h : piece? p text = some (piece, rest)) : rest.length < text.length := by
  have hpos := List.length_pos_iff.mpr (piece?_ne_nil h)
  have hlen := congrArg List.length (piece?_append h)
  rw [List.length_append] at hlen
  omega

/-- The longest gap at the front of a text, and what follows it. -/
def split (p : Policy) (text : List Char) : List Char × List Char :=
  match _h : piece? p text with
  | none => ([], text)
  | some (piece, rest) => (piece ++ (split p rest).1, (split p rest).2)
termination_by text.length
decreasing_by all_goals exact length_piece?_lt _h

theorem split_of_piece?_eq_none {p : Policy} {text : List Char} (h : piece? p text = none) :
    split p text = ([], text) := by
  rw [split]
  split
  · rfl
  · next hsome => rw [h] at hsome; cases hsome

theorem split_of_piece?_eq_some {p : Policy} {text piece rest : List Char}
    (h : piece? p text = some (piece, rest)) :
    split p text = (piece ++ (split p rest).1, (split p rest).2) := by
  rw [split]
  split
  · next hnone => rw [h] at hnone; cases hnone
  · next hsome => rw [h] at hsome; cases hsome; rfl

/-- A gap and what follows it make up the text. -/
theorem split_append (p : Policy) (text : List Char) :
    (split p text).1 ++ (split p text).2 = text := by
  fun_induction split p text with
  | case1 text h => rfl
  | case2 text piece rest h ih => rw [List.append_assoc, ih, piece?_append h]

/-- No piece of a gap is left where a gap ends. -/
theorem piece?_split (p : Policy) (text : List Char) : piece? p (split p text).2 = none := by
  fun_induction split p text with
  | case1 text h => exact h
  | case2 text piece rest h ih => exact ih

end UnitScan.Gap

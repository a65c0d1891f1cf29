import UnitScan.Character.Blank

/-!
# Layout of text

Trimming, padding, and the lines of a text. Lines are what stands between newlines, so a text
has one line more than it has newlines.
-/

namespace UnitScan.Text

/-- A text without the blanks at its end. -/
def trimRight (text : List Char) : List Char :=
  (text.reverse.dropWhile Character.isBlank).reverse

/-- A text without the blanks at its two ends. -/
def trim (text : List Char) : List Char :=
  trimRight (text.dropWhile Character.isBlank)

/-- A text filled up with spaces to at least the given width. -/
def padRight (width : Nat) (text : List Char) : List Char :=
  text ++ List.replicate (width - text.length) ' '

/-- The lines of a text. -/
def lines (text : List Char) : List (List Char) := text.splitOn '\n'

/-- Whether one text stands somewhere inside another. -/
def occursIn (part : List Char) : List Char → Bool
  | [] => part.isEmpty
  | c :: rest => part.isPrefixOf (c :: rest) || occursIn part rest

theorem occursIn_singleton (c : Char) (text : List Char) :
    occursIn [c] text = text.contains c := by
  induction text with
  | nil => rfl
  | cons d text ih => simp [occursIn, ih, List.isPrefixOf, Bool.beq_eq_decide_eq]

end UnitScan.Text

import UnitScan.Position
import UnitScan.Text.Written

/-!
# Diagnostics

A diagnostic describes something in a text that could not be read. Its text has a header with
the place and the description, the line of the text with a caret below the place, and a hint.
All but the description may be missing.

A diagnostic is made together with its text. One whose place cannot be written, or whose caret
would stand beyond the length of every text, is not made at all (`Diagnostic.make`).
-/

namespace UnitScan

/-- The description of something that could not be read. -/
structure Diagnostic where
  message : String
  location : Option Location := none
  hint : Option String := none
  /-- The line of the text that the location points into. -/
  sourceLine : Option String := none
  deriving DecidableEq, Repr

namespace Diagnostic

/-- What is said in place of the errors beyond a limit. -/
def tooManyMessage : String := "Too many errors"

/-- The place, if it is known, and the description. -/
def header (d : Diagnostic) : String :=
  d.location.elim "" (·.text ++ ": ") ++ "error: " ++ d.message

/-- What the line of the text is indented by. -/
def indent : String := "    "

/-- The caret below a column of the indented line, if the column is positive. -/
def caretLine (column : Int) : List String :=
  if 0 < column then
    [indent ++ String.ofList (List.replicate (column.toNat - 1) ' ') ++ "^"]
  else []

/-- The line of the text and the caret, if the line and the place are known. -/
def context (d : Diagnostic) : List String :=
  match d.sourceLine, d.location with
  | some line, some l => (indent ++ line) :: caretLine l.position.column
  | _, _ => []

/-- The hint, unless it is empty. -/
def hintLine (d : Diagnostic) : List String :=
  match d.hint with
  | some hint => if hint.isEmpty then [] else ["hint: " ++ hint]
  | none => []

/-- The full text of a diagnostic. -/
def text (d : Diagnostic) : String :=
  "\n".intercalate (d.header :: d.context ++ d.hintLine)

/-- Why a diagnostic has no text, if it has none. The header is written before the caret. -/
def fault? (d : Diagnostic) : Option Text.Unwritable :=
  match d.location with
  | none => none
  | some ⟨_, line, column⟩ =>
    if ¬(Text.Writable line ∧ Text.Writable column) then some .number
    else if d.sourceLine.isSome ∧ Text.lengthLimit ≤ indent.length + column - 1 then some .padding
    else none

/-- The diagnostic with the given parts, unless it has no text. -/
def make (d : Diagnostic) : Except Text.Unwritable Diagnostic :=
  match d.fault? with
  | some fault => .error fault
  | none => .ok d

end Diagnostic

end UnitScan

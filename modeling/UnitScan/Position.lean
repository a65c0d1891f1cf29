/-!
# Positions in a text

A position is a line and a column, both counted from one by everything that reads a text. A
newline ends its line, and every other character takes one column.

## Implementation notes

The text of a position is defined for numbers of any size. The positions in a text are small enough
to be written. A diagnostic may be given any position, and it is checked there
(`Diagnostic.fault?`).
-/

namespace UnitScan

/-- A line and a column. -/
structure Position where
  line : Int
  column : Int
  deriving DecidableEq, Repr

namespace Position

/-- The position of the first character of a text. -/
def start : Position := ⟨1, 1⟩

/-- The position that follows a character. -/
def advance (p : Position) (c : Char) : Position :=
  if c = '\n' then ⟨p.line + 1, 1⟩ else ⟨p.line, p.column + 1⟩

/-- The position that follows a run of characters. -/
def after (p : Position) (chars : List Char) : Position := chars.foldl advance p

@[simp] theorem after_nil (p : Position) : p.after [] = p := rfl

@[simp] theorem after_cons (p : Position) (c : Char) (chars : List Char) :
    p.after (c :: chars) = (p.advance c).after chars := rfl

theorem after_append (p : Position) (xs ys : List Char) :
    p.after (xs ++ ys) = (p.after xs).after ys := by
  simp [after, List.foldl_append]

/-- The line and the column, parted by a colon. -/
def text (p : Position) : String := toString p.line ++ ":" ++ toString p.column

end Position

/-- A position in a named text. -/
structure Location where
  source : String
  position : Position
  deriving DecidableEq, Repr

/-- The name that a text goes by when it comes from no file. -/
def Location.anonymous : String := "<input>"

/-- The name of the text and the position, parted by a colon. -/
def Location.text (l : Location) : String := l.source ++ ":" ++ l.position.text

end UnitScan

import UnitScan.Text.Quoted

/-!
# Numbers kept as text

A number is kept as the digits it was written with, in up to three parts. No value is
computed, so no precision is lost.
-/

namespace UnitScan

/-- The parts of a number: its integer digits, the digits after the point if it has a point,
and the digits of the exponent with their sign if it has an exponent. -/
structure NumberText where
  integer : String
  fraction : Option String := none
  exponent : Option String := none
  deriving DecidableEq, Repr

namespace NumberText

/-- The number as it is written in a definitions file. -/
def text (n : NumberText) : String :=
  n.integer ++ (n.fraction.elim "" ("." ++ ·)) ++ (n.exponent.elim "" ("e" ++ ·))

/-- A part of a number, quoted, in the form that names the parts. -/
def partText (part : Option String) : String := part.elim "None" Text.quoted

/-- The number in the form that names its parts. -/
def debugText (n : NumberText) : String :=
  "NumberLiteral(integer=" ++ Text.quoted n.integer ++ ", fraction=" ++ partText n.fraction ++
    ", exponent=" ++ partText n.exponent ++ ")"

end NumberText

end UnitScan

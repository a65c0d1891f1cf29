import UnitScan.Text.Integer

/-!
# What can be written

A number is written with as many digits as it may be read with, and with no more. A run of blanks is
no longer than a text may be. Whatever has to hold a number or a run of blanks beyond these limits
has no text.

## Implementation notes

The limits bind numbers that come from outside. A number that counts the characters or the lines of
a text is below both of them, since no text is that long. Memory is not limited here: a run of blanks
below the length limit can be written, however long it is.
-/

namespace UnitScan.Text

/-- The length that every text stays below. -/
def lengthLimit : Nat := Nat.pow 2 63

/-- The first number that has too many digits to be written. -/
def numberLimit : Nat := Nat.pow 10 digitLimit

/-- An integer has few enough digits to be written. The sign is not counted. -/
def Writable (n : Int) : Prop := n.natAbs < numberLimit

instance : DecidablePred Writable := fun n =>
  inferInstanceAs (Decidable (n.natAbs < numberLimit))

/-- Why something has no text. -/
inductive Unwritable
  /-- A number has too many digits. -/
  | number
  /-- A run of blanks would be too long. -/
  | padding
  deriving DecidableEq, Repr

/-- What is reported in place of a text. -/
def Unwritable.message : Unwritable → String
  | number =>
    "Exceeds the limit (" ++ toString digitLimit ++ " digits) for integer string conversion; " ++
      "use sys.set_int_max_str_digits() to increase the limit"
  | padding => "cannot fit 'int' into an index-sized integer"

end UnitScan.Text

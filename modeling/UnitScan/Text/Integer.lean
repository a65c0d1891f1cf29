import UnitScan.Character.Digit
import UnitScan.Text.Layout

/-!
# Integers in text

The decimal integers that a setting accepts: blanks on both sides, one optional sign, and
decimal digits of any script, with single underscores between them.

## Implementation notes

The information separators U+001C to U+001F are blank elsewhere, but an integer may not stand
between them. A text of more than `digitLimit` digits is refused, whatever its value.
-/

namespace UnitScan.Text

/-- The largest number of digits that an integer may be written with. -/
def digitLimit : Nat := 4300

/-- The characters that are blank elsewhere, but not around an integer. -/
def isSeparator (c : Char) : Bool := '\x1c' ≤ c && c ≤ '\x1f'

/-- Whether a character is dropped at the ends of an integer text. -/
def isIntegerBlank (c : Char) : Bool := Character.isBlank c && !isSeparator c

/-- An integer text without the blanks at its ends. -/
def integerCore (text : List Char) : List Char :=
  ((text.dropWhile isIntegerBlank).reverse.dropWhile isIntegerBlank).reverse

/-- The digit values after a first digit, each digit preceded by at most one underscore. -/
def laterDigits? : List Char → Option (List Nat)
  | [] => some []
  | c :: rest =>
    if c = '_' then
      match rest with
      | [] => none
      | d :: rest => do return (← Character.decimalValue? d) :: (← laterDigits? rest)
    else do return (← Character.decimalValue? c) :: (← laterDigits? rest)

/-- The digit values of an unsigned integer text, which starts with a digit. -/
def digits? : List Char → Option (List Nat)
  | [] => none
  | c :: rest => do return (← Character.decimalValue? c) :: (← laterDigits? rest)

/-- The number written by an unsigned integer text. -/
def natural? (text : List Char) : Option Nat := do
  let digits ← digits? text
  if digits.length ≤ digitLimit then
    return digits.foldl (fun value digit => 10 * value + digit) 0
  else none

/-- The number written by an integer text. -/
def integer? (text : List Char) : Option Int :=
  match integerCore text with
  | '-' :: rest => (natural? rest).map fun n => -(n : Int)
  | '+' :: rest => (natural? rest).map fun n => (n : Int)
  | core => (natural? core).map fun n => (n : Int)

end UnitScan.Text

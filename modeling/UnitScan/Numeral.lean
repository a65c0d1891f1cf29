import UnitScan.NumberText

/-!
# Numerals

A numeral is a number as it stands in a text: ASCII digits, then perhaps a point with digits
after it, then perhaps an exponent, whose sign is optional. A point or an exponent mark
without its digits does not belong to the numeral.
-/

namespace UnitScan

namespace Numeral

/-- The exponent of a numeral: its mark, its sign if it has one, and its digits. -/
structure Exponent where
  mark : Char
  sign : Option Char
  digits : List Char
  deriving DecidableEq, Repr

namespace Exponent

/-- Whether a character opens an exponent. -/
def isMark (c : Char) : Bool := c = 'e' || c = 'E'

/-- Whether a character is the sign of an exponent. -/
def isSign (c : Char) : Bool := c = '+' || c = '-'

/-- The exponent without its mark. -/
def unmarked (e : Exponent) : List Char := e.sign.toList ++ e.digits

/-- The characters of an exponent. -/
def spelling (e : Exponent) : List Char := e.mark :: e.unmarked

end Exponent

end Numeral

/-- A number as it stands in a text. -/
structure Numeral where
  integer : List Char
  fraction : Option (List Char)
  exponent : Option Numeral.Exponent
  deriving DecidableEq, Repr

namespace Numeral

/-- The characters of the point and the digits after it. -/
def fractionSpelling (fraction : Option (List Char)) : List Char :=
  fraction.elim [] ('.' :: ·)

/-- The characters of an exponent, if there is one. -/
def exponentSpelling (exponent : Option Exponent) : List Char :=
  exponent.elim [] Exponent.spelling

/-- The characters of a numeral. -/
def spelling (n : Numeral) : List Char :=
  n.integer ++ fractionSpelling n.fraction ++ exponentSpelling n.exponent

/-- The number that a numeral denotes, part by part. -/
def numberText (n : Numeral) : NumberText where
  integer := String.ofList n.integer
  fraction := n.fraction.map String.ofList
  exponent := n.exponent.map fun e => String.ofList e.unmarked

/-- The fraction at the front of a text, and what follows it. -/
def readFraction : List Char → Option (List Char) × List Char
  | '.' :: rest =>
    match rest.takeWhile Char.isDigit with
    | [] => (none, '.' :: rest)
    | digits => (some digits, rest.dropWhile Char.isDigit)
  | text => (none, text)

/-- The sign at the front of a text, and what follows it. -/
def readSign : List Char → Option Char × List Char
  | c :: rest => if Exponent.isSign c then (some c, rest) else (none, c :: rest)
  | [] => (none, [])

/-- The exponent at the front of a text, and what follows it. -/
def readExponent : List Char → Option Exponent × List Char
  | c :: rest =>
    if Exponent.isMark c then
      match (readSign rest).2.takeWhile Char.isDigit with
      | [] => (none, c :: rest)
      | digits =>
        (some ⟨c, (readSign rest).1, digits⟩, (readSign rest).2.dropWhile Char.isDigit)
    else (none, c :: rest)
  | [] => (none, [])

/-- The numeral at the front of a text that starts with a digit, and what follows it. -/
def read (text : List Char) : Numeral × List Char :=
  let integer := text.takeWhile Char.isDigit
  let (fraction, rest) := readFraction (text.dropWhile Char.isDigit)
  let (exponent, rest) := readExponent rest
  (⟨integer, fraction, exponent⟩, rest)

theorem readFraction_append (text : List Char) :
    fractionSpelling (readFraction text).1 ++ (readFraction text).2 = text := by
  unfold readFraction
  split
  · split
    · rfl
    · simp [fractionSpelling]
  · rfl

theorem readSign_append (text : List Char) :
    (readSign text).1.toList ++ (readSign text).2 = text := by
  unfold readSign
  split
  · split <;> rfl
  · rfl

theorem readExponent_append (text : List Char) :
    exponentSpelling (readExponent text).1 ++ (readExponent text).2 = text := by
  unfold readExponent
  split
  · next c rest =>
    split
    · split
      · rfl
      · simp only [exponentSpelling, Option.elim_some, Exponent.spelling, Exponent.unmarked,
          List.cons_append, List.append_assoc, List.takeWhile_append_dropWhile,
          readSign_append]
    · rfl
  · rfl

/-- A numeral and what follows it make up the text. -/
theorem read_append (text : List Char) : (read text).1.spelling ++ (read text).2 = text := by
  simp only [read, spelling, List.append_assoc, readExponent_append, readFraction_append,
    List.takeWhile_append_dropWhile]

end Numeral

end UnitScan

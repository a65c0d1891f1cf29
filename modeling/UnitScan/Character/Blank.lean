import UnitScan.Character.Ranges

/-!
# Blank characters

The characters that are trimmed from the ends of a text: the white space of Unicode 14
together with the four information separators.
-/

namespace UnitScan.Character

/-- The code points of the blank characters. -/
def blankRanges : CodeRanges :=
  [(0x09, 0x0D), (0x1C, 0x20), (0x85, 0x85), (0xA0, 0xA0), (0x1680, 0x1680), (0x2000, 0x200A),
   (0x2028, 0x2029), (0x202F, 0x202F), (0x205F, 0x205F), (0x3000, 0x3000)]

/-- Whether a character is blank. -/
def isBlank (c : Char) : Bool := blankRanges.covers c.toNat

end UnitScan.Character

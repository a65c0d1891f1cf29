import UnitScan.Character.Digit
import UnitScan.Character.Letter

/-!
# Numerals and alphanumeric characters

A numeral character denotes a number without being a digit: fractions, letter numbers,
numbers of ten and beyond. Letters, digits and numerals together are the alphanumeric
characters.
-/

namespace UnitScan.Character

/-- The code points of the numerals that are neither letters nor digits. -/
def numeralRanges : CodeRanges :=
  [(0xBC, 0xBE), (0x9F4, 0x9F9), (0xB72, 0xB77), (0xBF0, 0xBF2), (0xC78, 0xC7E), (0xD58, 0xD5E),
   (0xD70, 0xD78), (0xF2A, 0xF33), (0x1372, 0x137C), (0x16EE, 0x16F0), (0x17F0, 0x17F9),
   (0x2150, 0x2182), (0x2185, 0x2189), (0x2469, 0x2473), (0x247D, 0x2487), (0x2491, 0x249B),
   (0x24EB, 0x24F4), (0x24FE, 0x24FE), (0x277F, 0x277F), (0x2789, 0x2789), (0x2793, 0x2793),
   (0x2CFD, 0x2CFD), (0x3007, 0x3007), (0x3021, 0x3029), (0x3038, 0x303A), (0x3192, 0x3195),
   (0x3220, 0x3229), (0x3248, 0x324F), (0x3251, 0x325F), (0x3280, 0x3289), (0x32B1, 0x32BF),
   (0xA6E6, 0xA6EF), (0xA830, 0xA835), (0x10107, 0x10133), (0x10140, 0x10178),
   (0x1018A, 0x1018B), (0x102E1, 0x102FB), (0x10320, 0x10323), (0x10341, 0x10341),
   (0x1034A, 0x1034A), (0x103D1, 0x103D5), (0x10858, 0x1085F), (0x10879, 0x1087F),
   (0x108A7, 0x108AF), (0x108FB, 0x108FF), (0x10916, 0x1091B), (0x109BC, 0x109BD),
   (0x109C0, 0x109CF), (0x109D2, 0x109FF), (0x10A44, 0x10A48), (0x10A7D, 0x10A7E),
   (0x10A9D, 0x10A9F), (0x10AEB, 0x10AEF), (0x10B58, 0x10B5F), (0x10B78, 0x10B7F),
   (0x10BA9, 0x10BAF), (0x10CFA, 0x10CFF), (0x10E69, 0x10E7E), (0x10F1D, 0x10F26),
   (0x10F51, 0x10F54), (0x10FC5, 0x10FCB), (0x1105B, 0x11065), (0x111E1, 0x111F4),
   (0x1173A, 0x1173B), (0x118EA, 0x118F2), (0x11C5A, 0x11C6C), (0x11FC0, 0x11FD4),
   (0x12400, 0x1246E), (0x16B5B, 0x16B61), (0x16E80, 0x16E96), (0x1D2E0, 0x1D2F3),
   (0x1D360, 0x1D378), (0x1E8C7, 0x1E8CF), (0x1EC71, 0x1ECAB), (0x1ECAD, 0x1ECAF),
   (0x1ECB1, 0x1ECB4), (0x1ED01, 0x1ED2D), (0x1ED2F, 0x1ED3D), (0x1F10B, 0x1F10C)]

/-- Whether a character is a letter, a digit or a numeral. -/
def isAlphanumeric (c : Char) : Bool :=
  isLetter c || isDigit c || numeralRanges.covers c.toNat

end UnitScan.Character

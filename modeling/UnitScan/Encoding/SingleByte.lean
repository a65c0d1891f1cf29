/-!
# Encodings of one byte per character

Each byte stands for one character or for none. A byte that stands for none is decoded as the
replacement character.
-/

namespace UnitScan.Encoding

/-- The character that stands in for bytes that cannot be decoded. -/
def replacement : Char := '\uFFFD'

/-- The character of a byte in ASCII. -/
def asciiChar (b : UInt8) : Char := if b < 0x80 then Char.ofNat b.toNat else replacement

/-- The character of a byte in Latin-1: the code point of the same number. -/
def latin1Char (b : UInt8) : Char := Char.ofNat b.toNat

/-- The code points of the bytes 80 to 9F in Windows-1252. -/
def windows1252Upper : List (Option Nat) :=
  [some 0x20AC, none, some 0x201A, some 0x0192, some 0x201E, some 0x2026, some 0x2020,
   some 0x2021, some 0x02C6, some 0x2030, some 0x0160, some 0x2039, some 0x0152, none,
   some 0x017D, none, none, some 0x2018, some 0x2019, some 0x201C, some 0x201D, some 0x2022,
   some 0x2013, some 0x2014, some 0x02DC, some 0x2122, some 0x0161, some 0x203A, some 0x0153,
   none, some 0x017E, some 0x0178]

/-- The character of a byte in Windows-1252, which differs from Latin-1 in the bytes 80 to 9F. -/
def windows1252Char (b : UInt8) : Char :=
  if b < 0x80 ∨ 0x9F < b then latin1Char b
  else match windows1252Upper[b.toNat - 0x80]? with
    | some (some n) => Char.ofNat n
    | _ => replacement

end UnitScan.Encoding

import UnitScan.Encoding.Utf16
import UnitScan.Encoding.Utf8

/-!
# Text encodings

The encodings that a definitions file may be in, the names that they go by, and decoding.
Decoding never fails: bytes that stand for no character are decoded as replacement characters.

## Implementation notes

Names are compared in lower case. Every character separates words that is not an ASCII letter,
an ASCII digit or a point; any run of separators is as good as one, and those at the ends do not
count. A point belongs to its word, but an encoding's further names are also found with points
where they have separators.
-/

namespace UnitScan

/-- The encodings that a definitions file may be in. -/
inductive Encoding
  | utf8
  | utf8Signed
  | ascii
  | latin1
  | windows1252
  | utf16
  | utf16LittleEndian
  | utf16BigEndian
  deriving DecidableEq, Repr

namespace Encoding

/-- Whether a character may stand in a word of an encoding name. -/
def isNameCharacter (c : Char) : Bool := c.isAlphanum || c = '.'

/-- The words of an encoding name, in lower case. -/
def nameWords (name : String) : List (List Char) :=
  ((name.toList.map Char.toLower).splitOnP fun c => !isNameCharacter c).filter (!·.isEmpty)

/-- The words of an encoding name, in lower case and joined by hyphens. -/
def plainName (name : String) : String :=
  "-".intercalate ((nameWords name).map String.ofList)

/-- A text with hyphens for its points. -/
def withoutPoints (text : String) : String :=
  String.ofList (text.toList.map fun c => if c = '.' then '-' else c)

/-- The first name of an encoding. -/
def name : Encoding → String
  | utf8 => "utf-8"
  | utf8Signed => "utf-8-sig"
  | ascii => "ascii"
  | latin1 => "latin-1"
  | windows1252 => "cp1252"
  | utf16 => "utf-16"
  | utf16LittleEndian => "utf-16-le"
  | utf16BigEndian => "utf-16-be"

/-- The further names of an encoding. -/
def aliases : Encoding → List String
  | utf8 => ["utf8", "u8", "utf", "utf8-ucs2", "utf8-ucs4", "cp65001"]
  | utf8Signed => []
  | ascii =>
    ["us-ascii", "us", "646", "iso646-us", "iso-646.irv-1991", "iso-ir-6", "cp367", "ibm367",
      "csascii", "ansi-x3.4-1968", "ansi-x3-4-1968", "ansi-x3.4-1986"]
  | latin1 =>
    ["latin1", "latin", "l1", "8859", "iso8859", "iso8859-1", "iso-8859-1", "iso-8859-1-1987",
      "iso-ir-100", "cp819", "ibm819", "csisolatin1"]
  | windows1252 => ["windows-1252", "1252"]
  | utf16 => ["utf16", "u16"]
  | utf16LittleEndian => ["utf-16le", "unicodelittleunmarked"]
  | utf16BigEndian => ["utf-16be", "unicodebigunmarked"]

/-- All encodings. -/
def all : List Encoding :=
  [utf8, utf8Signed, ascii, latin1, windows1252, utf16, utf16LittleEndian, utf16BigEndian]

/-- Whether an encoding goes by a name. -/
def goesBy (e : Encoding) (text : String) : Bool :=
  let plain := plainName text
  e.name = plain || e.aliases.contains plain || e.aliases.contains (withoutPoints plain)

/-- The encoding that goes by a name. -/
def ofName? (text : String) : Option Encoding := all.find? fun e => e.goesBy text

/-- The characters of a text in an encoding. -/
def decode : Encoding → List UInt8 → List Char
  | utf8 => Utf8.decode
  | utf8Signed => Utf8.decodeSigned
  | ascii => List.map asciiChar
  | latin1 => List.map latin1Char
  | windows1252 => List.map windows1252Char
  | utf16 => Utf16.decodeMarked
  | utf16LittleEndian => Utf16.decode .littleEndian
  | utf16BigEndian => Utf16.decode .bigEndian

end Encoding

end UnitScan

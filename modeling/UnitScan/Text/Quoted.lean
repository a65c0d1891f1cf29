import UnitScan.Character.Printable

/-!
# Quoted text

A text is quoted on one line: it stands between two quotes, and every character that has no
printable form is written as an escape of fixed width.

## Implementation notes

The single quote is used unless the text holds a single quote and no double quote. Only the
quote in use, the backslash and the unprintable characters are escaped, so a quote of the
other kind stands as itself.
-/

namespace UnitScan.Text

/-- The lower-case hexadecimal digit of a value below sixteen. -/
def hexDigit (d : Nat) : Char :=
  if d < 10 then Char.ofNat (48 + d) else Char.ofNat (87 + d)

/-- The last `width` hexadecimal digits of a number, the most significant one first. -/
def hexDigits : Nat → Nat → List Char
  | 0, _ => []
  | width + 1, n => hexDigits width (n / 16) ++ [hexDigit (n % 16)]

/-- A character written by its code point: two digits after `x`, four after `u`, or eight
after `U`, whichever is the first to hold it. -/
def codeEscape (c : Char) : List Char :=
  if c.toNat < 0x100 then '\\' :: 'x' :: hexDigits 2 c.toNat
  else if c.toNat < 0x10000 then '\\' :: 'u' :: hexDigits 4 c.toNat
  else '\\' :: 'U' :: hexDigits 8 c.toNat

/-- The form of a character inside a text that stands between two `quote`s. -/
def quotedChar (quote c : Char) : List Char :=
  if c = quote ∨ c = '\\' then ['\\', c]
  else if c = '\t' then ['\\', 't']
  else if c = '\n' then ['\\', 'n']
  else if c = '\r' then ['\\', 'r']
  else if Character.isPrintable c then [c]
  else codeEscape c

/-- The quote that a text is put between. -/
def quoteFor (text : List Char) : Char :=
  if '\x27' ∈ text ∧ '"' ∉ text then '"' else '\x27'

/-- A text between quotes, on one line. -/
def quotedChars (text : List Char) : List Char :=
  let quote := quoteFor text
  quote :: text.flatMap (quotedChar quote) ++ [quote]

/-- A text between quotes, on one line. -/
def quoted (text : String) : String := String.ofList (quotedChars text.toList)

end UnitScan.Text

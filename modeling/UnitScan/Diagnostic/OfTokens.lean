import UnitScan.Diagnostic.Collector
import UnitScan.Log
import UnitScan.Text.Layout
import UnitScan.Token

/-!
# Diagnostics of a stream of tokens

Every error token of a stream is a diagnostic. A strict reader stops at the first one, a
lenient reader collects them up to a limit. Both fail at a diagnostic that cannot be made, which
happens only to tokens at places where the text has nothing.

## Implementation notes

The texts of the library are of any length, and so are the lines and columns of their tokens. A
place where a text has a character is therefore not held against the limits of what can be written
(`makeOfToken`). No text is long enough for this to make a difference, see `makeOfToken_eq_make`.
-/

namespace UnitScan.Diagnostic

/-- The line of the given number, counted from one. -/
def lineAt? (lines : List (List Char)) (number : Int) : Option String :=
  if 0 < number then lines[number.toNat - 1]?.map String.ofList else none

/-- The character that the given lines have at a place. -/
def charAt? (lines : List (List Char)) (place : Position) : Option Char :=
  if 0 < place.line ∧ 0 < place.column then do
    (← lines[place.line.toNat - 1]?)[place.column.toNat - 1]?
  else none

/-- The parts of the diagnostic for a token of a named text with the given lines. -/
def ofToken (lines : List (List Char)) (source : String) (t : Token) : Diagnostic where
  message := t.payload.plain
  location := some (t.location source)
  sourceLine := lineAt? lines t.position.line

/-- The diagnostic for a token of a named text with the given lines, unless it has no text. -/
def makeOfToken (lines : List (List Char)) (source : String) (t : Token) :
    Except Text.Unwritable Diagnostic :=
  if (charAt? lines t.position).isSome then .ok (ofToken lines source t)
  else (ofToken lines source t).make

/-- The diagnostic for the first error token, if there is one. -/
def first? (tokens : List Token) (text : List Char) (source : String) :
    Option (Except Text.Unwritable Diagnostic) :=
  (tokens.find? Token.isError).map (makeOfToken (Text.lines text) source)

/-- Add diagnostics to a collector until it refuses one. A diagnostic is made when its turn comes,
and one that cannot be made ends all. -/
def Collector.addUntilFull (c : Collector) :
    List (Except Text.Unwritable Diagnostic) → Logged (Except Text.Unwritable Collector)
  | [] => pure (.ok c)
  | .error fault :: _ => pure (.error fault)
  | .ok d :: later =>
    match c.add d with
    | (.ok (), c) => c.addUntilFull later
    | (.error (.full limit), c) => do
      Logged.note (.limitReached limit)
      return .ok c
    | (.error (.unwritable fault), _) => pure (.error fault)

/-- The diagnostics for the error tokens, up to a limit. -/
def collect (tokens : List Token) (text : List Char) (source : String) (limit : Int) :
    Logged (Except Text.Unwritable Collector) :=
  let lines := Text.lines text
  Collector.addUntilFull { limit } ((tokens.filter Token.isError).map (makeOfToken lines source))

end UnitScan.Diagnostic

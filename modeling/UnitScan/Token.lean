import UnitScan.NumberText
import UnitScan.Operator
import UnitScan.Position

/-!
# Tokens

A token is one classified piece of a text, with the position of its first character. Its
content is its kind and its payload; two tokens of equal content are interchangeable, wherever
they stand.

## Implementation notes

A stream of tokens need not come from the scanner of this library, so a token joins any kind
with any payload. Which combinations the scanner makes is `Lexeme.content`.
-/

namespace UnitScan

namespace Token

/-- What a token is. -/
inductive Kind
  | endOfInput
  | newline
  | ident
  | number
  | operator (o : Operator)
  | error
  deriving DecidableEq, Repr

namespace Kind

/-- All kinds, in the order of their codes. -/
def all : List Kind :=
  [endOfInput, newline, ident, number] ++ Operator.all.map operator ++ [error]

/-- The name of a kind in listings. -/
def name : Kind → String
  | endOfInput => "EOF"
  | newline => "NEWLINE"
  | ident => "IDENT"
  | number => "NUMBER"
  | operator o => o.name
  | error => "ERROR"

/-- The code of a kind, counted from one. -/
def code (k : Kind) : Nat := all.idxOf k + 1

/-- The kind with a given name. -/
def ofName? (name : String) : Option Kind := all.find? (·.name = name)

end Kind

/-- What a token carries besides its kind. -/
inductive Payload
  | none
  | text (s : String)
  | number (n : NumberText)
  deriving DecidableEq, Repr

namespace Payload

/-- The payload without quotes. -/
def plain : Payload → String
  | none => "None"
  | text s => s
  | number n => n.text

/-- The payload in the form that tells texts from numbers. -/
def debugText : Payload → String
  | none => "None"
  | text s => Text.quoted s
  | number n => n.debugText

end Payload

end Token

/-- One classified piece of a text and the position of its first character. -/
structure Token where
  kind : Token.Kind
  payload : Token.Payload := .none
  position : Position := ⟨0, 0⟩
  deriving DecidableEq, Repr

namespace Token

/-- A token without its position. -/
def content (t : Token) : Kind × Payload := (t.kind, t.payload)

/-- Whether two tokens are the same up to their positions. -/
def sameContent (s t : Token) : Bool := s.content = t.content

/-- Whether a token marks the end of the input. -/
def isEnd (t : Token) : Bool := t.kind = .endOfInput

/-- Whether a token reports something that could not be read. -/
def isError (t : Token) : Bool := t.kind = .error

/-- Where a token of a named text stands. -/
def location (t : Token) (source : String) : Location := ⟨source, t.position⟩

/-- The token that marks the end of an input that ends at a position. -/
def endAt (p : Position) : Token := ⟨.endOfInput, .none, p⟩

/-- The payload of a token in its one-line form, with the comma after it. -/
def payloadText : Payload → String
  | .none => ""
  | .text s => Text.quoted s ++ ", "
  | .number n => n.text ++ ", "

/-- The token on one line: its kind, its payload if it has one, and its position. -/
def debugText (t : Token) : String :=
  "Token(" ++ t.kind.name ++ ", " ++ payloadText t.payload ++ t.position.text ++ ")"

end Token

end UnitScan

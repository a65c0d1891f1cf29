import UnitScan.Token

/-!
# Rendering tokens as source text

A stream of tokens is written back as text of the same language: identifiers and numbers with
a space after them, newlines and operators as themselves, and errors in angle brackets.
-/

namespace UnitScan.Token

/-- The source text of a token. -/
def render (t : Token) : String :=
  match t.kind with
  | .ident | .number => t.payload.plain ++ " "
  | .newline => "\n"
  | .error => "<error: " ++ t.payload.plain ++ ">"
  | .endOfInput => ""
  | .operator o => o.char.toString

/-- The source text of a stream of tokens. -/
def renderAll (tokens : List Token) : String := String.join (tokens.map render)

end UnitScan.Token

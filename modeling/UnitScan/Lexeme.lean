import UnitScan.Numeral
import UnitScan.Policy
import UnitScan.Token

/-!
# Lexemes

A lexeme is the run of characters that the scanner takes for one token: a newline, an
identifier, a numeral, an operator, or a single stray character that starts none of these.
Identifiers and numerals are as long as the text allows. `Lexeme.read_append` says that a
lexeme and what follows it make up the text.
-/

namespace UnitScan

/-- What the scanner recognises. -/
inductive Lexeme
  | newline
  | ident (name : List Char)
  | number (n : Numeral)
  | operator (o : Operator)
  | stray (c : Char)
  deriving DecidableEq, Repr

namespace Lexeme

/-- The characters of a lexeme. -/
def spelling : Lexeme → List Char
  | newline => ['\n']
  | ident name => name
  | number n => n.spelling
  | operator o => [o.char]
  | stray c => [c]

/-- What a stray character is reported as. -/
def strayMessage (c : Char) : String := "unexpected character '" ++ c.toString ++ "'"

/-- The kind and the payload of the token for a lexeme. -/
def content : Lexeme → Token.Kind × Token.Payload
  | newline => (.newline, .none)
  | ident name => (.ident, .text (String.ofList name))
  | number n => (.number, .number n.numberText)
  | operator o => (.operator o, .none)
  | stray c => (.error, .text (strayMessage c))

/-- The token for a lexeme at a position. -/
def token (l : Lexeme) (p : Position) : Token := ⟨l.content.1, l.content.2, p⟩

/-- The lexeme that starts with a character, given what follows the character, and what
follows the lexeme. -/
def read (p : Policy) (c : Char) (rest : List Char) : Lexeme × List Char :=
  if c = '\n' then (newline, rest)
  else if p.startsIdent c then
    (ident (c :: rest.takeWhile p.continuesIdent), rest.dropWhile p.continuesIdent)
  else if c.isDigit then
    let (n, rest) := Numeral.read (c :: rest)
    (number n, rest)
  else match Operator.ofChar? c with
    | some o => (operator o, rest)
    | none => (stray c, rest)

/-- A lexeme and what follows it make up the text. -/
theorem read_append (p : Policy) (c : Char) (rest : List Char) :
    (read p c rest).1.spelling ++ (read p c rest).2 = c :: rest := by
  unfold read
  split
  · next h => simp [spelling, h]
  · split
    · simp [spelling]
    · split
      · exact Numeral.read_append (c :: rest)
      · split
        · next h => simp [spelling, Operator.char_of_ofChar? h]
        · rfl

theorem spelling_read_ne_nil (p : Policy) (c : Char) (rest : List Char) :
    (read p c rest).1.spelling ≠ [] := by
  unfold read
  split
  · simp [spelling]
  · split
    · simp [spelling]
    · split
      · next h => simp [spelling, Numeral.spelling, Numeral.read, h]
      · split <;> simp [spelling]

theorem length_read_le (p : Policy) (c : Char) (rest : List Char) :
    (read p c rest).2.length ≤ rest.length := by
  have hpos := List.length_pos_iff.mpr (spelling_read_ne_nil p c rest)
  have hlen := congrArg List.length (read_append p c rest)
  rw [List.length_append, List.length_cons] at hlen
  omega

end Lexeme

end UnitScan

/-!
# Operators

The nine operators of unit expressions, each written as one character of its own.
-/

namespace UnitScan

/-- The operators of unit expressions. -/
inductive Operator
  | leftParen
  | rightParen
  | bang
  | slash
  | pipe
  | caret
  | plus
  | dash
  | asterisk
  deriving DecidableEq, Repr

namespace Operator

/-- All operators. -/
def all : List Operator :=
  [leftParen, rightParen, bang, slash, pipe, caret, plus, dash, asterisk]

/-- The character that an operator is written as. -/
def char : Operator → Char
  | leftParen => '('
  | rightParen => ')'
  | bang => '!'
  | slash => '/'
  | pipe => '|'
  | caret => '^'
  | plus => '+'
  | dash => '-'
  | asterisk => '*'

/-- The name of an operator in listings. -/
def name : Operator → String
  | leftParen => "LPAR"
  | rightParen => "RPAR"
  | bang => "BANG"
  | slash => "SLASH"
  | pipe => "PIPE"
  | caret => "CARET"
  | plus => "PLUS"
  | dash => "DASH"
  | asterisk => "ASTERISK"

/-- The operator that a character writes. -/
def ofChar? (c : Char) : Option Operator := all.find? (·.char = c)

/-- Whether a character writes an operator. -/
def isChar (c : Char) : Bool := (ofChar? c).isSome

theorem mem_all (o : Operator) : o ∈ all := by cases o <;> decide

@[simp] theorem ofChar?_char (o : Operator) : ofChar? o.char = some o := by cases o <;> rfl

theorem char_of_ofChar? {c : Char} {o : Operator} (h : ofChar? c = some o) : o.char = c := by
  simpa using List.find?_some h

theorem ofChar?_eq_some_iff {c : Char} {o : Operator} : ofChar? c = some o ↔ o.char = c :=
  ⟨char_of_ofChar?, fun h => h ▸ ofChar?_char o⟩

end Operator

end UnitScan

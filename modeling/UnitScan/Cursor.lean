import UnitScan.Position

/-!
# Cursor

A cursor stands between two characters of a text and moves forward only. The end of the text
is the absence of a next character, so no character can be mistaken for it.

## Implementation notes

The cursor holds what it has passed, nearest character first, and what is left. The text
itself is not stored, it is `text`, and moving the cursor does not change it.
-/

namespace UnitScan

/-- A place between two characters of a text, with the position of the next character. -/
structure Cursor where
  passed : List Char
  rest : List Char
  position : Position
  deriving DecidableEq, Repr

namespace Cursor

/-- The cursor before the first character of a text whose first line has the given number. -/
def ofText (text : List Char) (line : Int) : Cursor := ⟨[], text, ⟨line, 1⟩⟩

/-- The text that the cursor moves over. -/
def text (c : Cursor) : List Char := c.passed.reverse ++ c.rest

/-- How many characters the cursor has passed. -/
def offset (c : Cursor) : Nat := c.passed.length

/-- Whether every character has been passed. -/
def atEnd (c : Cursor) : Bool := c.rest.isEmpty

/-- The cursor was asked for a character before the first one of its text. -/
inductive OutOfText
  | beforeStart
  deriving DecidableEq, Repr

/-- The character that stands `distance` places after the next one. Beyond the end there is
none. A place before the first character counts from the end of the text, down to the text's
own length; below that it is refused. -/
def peek (c : Cursor) (distance : Int) : Except OutOfText (Option Char) :=
  let place := c.offset + distance
  if 0 ≤ place then .ok c.text[place.toNat]?
  else
    let fromEnd := c.text.length + place
    if 0 ≤ fromEnd then .ok c.text[fromEnd.toNat]? else .error .beforeStart

/-- Pass the next character, if there is one. -/
def advance (c : Cursor) : Option Char × Cursor :=
  match c.rest with
  | [] => (none, c)
  | x :: rest => (some x, ⟨x :: c.passed, rest, c.position.advance x⟩)

/-- Pass the next characters, and answer for each of the `n` steps what it passed. -/
def advanceBy (c : Cursor) : Nat → List (Option Char) × Cursor
  | 0 => ([], c)
  | n + 1 =>
    let (x, next) := c.advance
    let (xs, last) := next.advanceBy n
    (x :: xs, last)

/-- The cursor after `n` steps. -/
def skip (c : Cursor) (n : Nat) : Cursor := (c.advanceBy n).2

@[simp] theorem skip_zero (c : Cursor) : c.skip 0 = c := rfl

@[simp] theorem skip_succ (c : Cursor) (n : Nat) : c.skip (n + 1) = c.advance.2.skip n := rfl

@[simp] theorem text_advance (c : Cursor) : c.advance.2.text = c.text := by
  unfold advance
  split
  · rfl
  · next h => simp [text, h]

@[simp] theorem text_skip (c : Cursor) (n : Nat) : (c.skip n).text = c.text := by
  induction n generalizing c with
  | zero => rfl
  | succ n ih => rw [skip_succ, ih, text_advance]

@[simp] theorem rest_advance (c : Cursor) : c.advance.2.rest = c.rest.tail := by
  unfold advance
  split <;> simp_all

@[simp] theorem rest_skip (c : Cursor) (n : Nat) : (c.skip n).rest = c.rest.drop n := by
  induction n generalizing c with
  | zero => rfl
  | succ n ih => rw [skip_succ, ih, rest_advance, List.drop_tail]

theorem position_skip (c : Cursor) (n : Nat) :
    (c.skip n).position = c.position.after (c.rest.take n) := by
  induction n generalizing c with
  | zero => rfl
  | succ n ih =>
    rw [skip_succ, ih, rest_advance]
    unfold advance
    split
    · next h => simp [h]
    · next h => simp [h]

end Cursor

end UnitScan

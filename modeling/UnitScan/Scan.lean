import UnitScan.Gap
import UnitScan.Lexeme
import UnitScan.Log

/-!
# Scanning

To scan a text is to take a gap and a lexeme off its front until only a gap is left. Each
lexeme becomes a token at the position of its first character; a stray character becomes an
error token, and scanning goes on after it, so every text has tokens.

`tokens` are the tokens of a text, and `tokenize` gives them together with the log of the
scan. `Reading.next?_append` says that one step neither loses nor invents a character.
-/

namespace UnitScan

/-- One step of a scan: a gap, the lexeme after it, and what is left. -/
structure Reading where
  gap : List Char
  lexeme : Lexeme
  rest : List Char
  deriving DecidableEq, Repr

namespace Reading

/-- The first step of a scan, unless only a gap is left of the text. -/
def next? (p : Policy) (text : List Char) : Option Reading :=
  match Gap.split p text with
  | (_, []) => none
  | (gap, c :: rest) => some ⟨gap, (Lexeme.read p c rest).1, (Lexeme.read p c rest).2⟩

theorem next?_eq_none_iff {p : Policy} {text : List Char} :
    next? p text = none ↔ (Gap.split p text).2 = [] := by
  unfold next?
  split <;> simp_all

/-- A step divides the text into the gap, the lexeme and what is left. -/
theorem next?_append {p : Policy} {text : List Char} {r : Reading} (h : next? p text = some r) :
    r.gap ++ (r.lexeme.spelling ++ r.rest) = text := by
  unfold next? at h
  split at h
  · cases h
  · next gap c rest heq =>
    cases h
    have hsplit := Gap.split_append p text
    rw [heq] at hsplit
    rw [Lexeme.read_append]
    exact hsplit

theorem spelling_next?_ne_nil {p : Policy} {text : List Char} {r : Reading}
    (h : next? p text = some r) : r.lexeme.spelling ≠ [] := by
  unfold next? at h
  split at h
  · cases h
  · next gap c rest heq =>
    cases h
    exact Lexeme.spelling_read_ne_nil p c rest

/-- What is left is shorter than the text. -/
theorem length_next?_lt {p : Policy} {text : List Char} {r : Reading}
    (h : next? p text = some r) : r.rest.length < text.length := by
  have hpos := List.length_pos_iff.mpr (spelling_next?_ne_nil h)
  have hlen := congrArg List.length (next?_append h)
  simp only [List.length_append] at hlen
  omega

/-- Where the lexeme of a step starts, in a text that starts at a position. -/
def lexemeStart (r : Reading) (start : Position) : Position := start.after r.gap

/-- Where the lexeme of a step ends, in a text that starts at a position. -/
def lexemeEnd (r : Reading) (start : Position) : Position :=
  (r.lexemeStart start).after r.lexeme.spelling

end Reading

/-- The event of meeting a lexeme at a position: only a stray character is one. -/
def Lexeme.note : Lexeme → Position → Logged Unit
  | .stray c, p => Logged.note (.stray p (strayMessage c))
  | _, _ => pure ()

/-- The tokens of a text that starts at a position, with the log of the scan. -/
def scanFrom (p : Policy) (start : Position) (text : List Char) : Logged (List Token) :=
  match _h : Reading.next? p text with
  | none => pure []
  | some r => do
    r.lexeme.note (r.lexemeStart start)
    let later ← scanFrom p (r.lexemeEnd start) r.rest
    return r.lexeme.token (r.lexemeStart start) :: later
termination_by text.length
decreasing_by exact Reading.length_next?_lt _h

/-- The number of error tokens among the given ones. -/
def Token.errorCount (tokens : List Token) : Nat := tokens.countP Token.isError

/-- The event of having read a stream of tokens to its end. -/
def Token.collected (tokens : List Token) : Log.Event :=
  .collected tokens.length (Token.errorCount tokens)

/-- The tokens of a text, with the log of the scan. -/
def tokenize (p : Policy) (text : List Char) : Logged (List Token) := do
  let tokens ← scanFrom p .start text
  Logged.note (Token.collected tokens)
  return tokens

/-- The tokens of a text that starts at a position. -/
def tokensFrom (p : Policy) (start : Position) (text : List Char) : List Token :=
  (scanFrom p start text).value

/-- The tokens of a text. -/
def tokens (p : Policy) (text : List Char) : List Token := (tokenize p text).value

theorem tokens_eq (p : Policy) (text : List Char) : tokens p text = tokensFrom p .start text :=
  rfl

section Steps

variable {p : Policy} {start : Position} {text : List Char}

theorem scanFrom_of_next?_eq_none (h : Reading.next? p text = none) :
    scanFrom p start text = pure [] := by
  rw [scanFrom]
  split
  · rfl
  · next hsome => rw [h] at hsome; cases hsome

theorem scanFrom_of_next?_eq_some {r : Reading} (h : Reading.next? p text = some r) :
    scanFrom p start text = do
      r.lexeme.note (r.lexemeStart start)
      let later ← scanFrom p (r.lexemeEnd start) r.rest
      return r.lexeme.token (r.lexemeStart start) :: later := by
  rw [scanFrom]
  split
  · next hnone => rw [h] at hnone; cases hnone
  · next hsome => rw [h] at hsome; cases hsome; rfl

theorem tokensFrom_of_next?_eq_none (h : Reading.next? p text = none) :
    tokensFrom p start text = [] := by
  rw [tokensFrom, scanFrom_of_next?_eq_none h, Logged.value_pure]

theorem tokensFrom_of_next?_eq_some {r : Reading} (h : Reading.next? p text = some r) :
    tokensFrom p start text =
      r.lexeme.token (r.lexemeStart start) :: tokensFrom p (r.lexemeEnd start) r.rest := by
  rw [tokensFrom, scanFrom_of_next?_eq_some h]
  rfl

end Steps

end UnitScan

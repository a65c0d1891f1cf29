import UnitScan.Cursor
import UnitScan.Token.Drain

/-!
# Token streams

A token stream hands out the tokens of a text one at a time. It can show its next token
without handing it out, and it goes on with end tokens after the end of the text. Read as a
sequence it stops after the first end token that the sequence has met.

## Implementation notes

A token that was shown but not yet handed out is kept in `lookahead`; the cursor already
stands behind it.
-/

namespace UnitScan

/-- The next token at a cursor, and the cursor behind it. At the end of the text the token is
an end token. -/
def Cursor.nextToken (c : Cursor) (p : Policy) : Token × Cursor :=
  match Reading.next? p c.rest with
  | none =>
    let last := c.skip c.rest.length
    (.endAt last.position, last)
  | some r =>
    let start := c.skip r.gap.length
    (r.lexeme.token start.position, start.skip r.lexeme.spelling.length)

theorem Cursor.length_nextToken_lt {c : Cursor} {p : Policy}
    (h : (c.nextToken p).1.isEnd = false) : (c.nextToken p).2.rest.length < c.rest.length := by
  unfold nextToken at h ⊢
  split
  · next hnone => simp [hnone, Token.endAt, Token.isEnd] at h
  · next r hsome =>
    have hpos := List.length_pos_iff.mpr (Reading.spelling_next?_ne_nil hsome)
    have hlen := congrArg List.length (Reading.next?_append hsome)
    simp only [List.length_append] at hlen
    simp only [rest_skip, List.length_drop]
    omega

/-- The tokens of a text, handed out one at a time. -/
structure TokenStream where
  policy : Policy
  cursor : Cursor
  /-- The next token, if it has been shown already. -/
  lookahead : Option Token
  /-- Whether the sequence has met its end token. -/
  finished : Bool

namespace TokenStream

/-- The stream of the tokens of a text. -/
def ofText (p : Policy) (text : List Char) : TokenStream := ⟨p, .ofText text 1, none, false⟩

/-- Hand out the next token. -/
def nextToken (s : TokenStream) : Token × TokenStream :=
  match s.lookahead with
  | some t => (t, { s with lookahead := none })
  | none =>
    let (t, cursor) := s.cursor.nextToken s.policy
    (t, { s with cursor })

/-- Show the next token. -/
def peek (s : TokenStream) : Token × TokenStream :=
  match s.lookahead with
  | some t => (t, s)
  | none =>
    let (t, cursor) := s.cursor.nextToken s.policy
    (t, { s with cursor, lookahead := some t })

/-- The next member of the sequence, unless it has met its end token. -/
def next? (s : TokenStream) : Option (Token × TokenStream) :=
  if s.finished then none
  else
    let (t, s) := s.nextToken
    some (t, { s with finished := t.isEnd })

/-- A bound on the number of tokens that are left before the end token. -/
def pending (s : TokenStream) : Nat := s.cursor.rest.length + s.lookahead.toList.length

theorem pending_nextToken_lt {s : TokenStream} (h : s.nextToken.1.isEnd = false) :
    s.nextToken.2.pending < s.pending := by
  cases hl : s.lookahead with
  | some t => simp [nextToken, pending, hl]
  | none =>
    simp only [nextToken, hl] at h
    simpa [nextToken, pending, hl] using Cursor.length_nextToken_lt h

theorem pending_next?_lt {s s' : TokenStream} {t : Token} (h : s.next? = some (t, s'))
    (ht : t.isEnd = false) : s'.pending < s.pending := by
  unfold next? at h
  split at h
  · cases h
  · cases h
    exact pending_nextToken_lt ht

/-- All further members of the sequence, the end token included. -/
def toList (s : TokenStream) : List Token × TokenStream :=
  match _h : s.next? with
  | none => ([], s)
  | some (t, s') =>
    if _ht : t.isEnd then ([t], s')
    else
      let (later, last) := s'.toList
      (t :: later, last)
termination_by s.pending
decreasing_by exact pending_next?_lt _h (by simpa using _ht)

/-- All further members of the sequence before its end token. -/
def drain (s : TokenStream) : Logged (Except StreamFailure (List Token)) × TokenStream :=
  ((Token.drain s.toList.1).1, s.toList.2)

end TokenStream

end UnitScan

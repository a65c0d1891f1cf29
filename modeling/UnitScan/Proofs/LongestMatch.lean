import UnitScan.Proofs.StreamTokens

/-!
# Every request takes the longest lexeme

`language` is the set of texts that a policy allows for a token that is no error. A request for
the next token removes the gap, and then takes the longest text of the language that stands at
the front of what is left. An error is the answer exactly where the language has no such text.

## Implementation notes

A stream of tokens asks its cursor for the next token whenever it has none to show, so a request
is a call of `Cursor.nextToken`, at any cursor and under any policy. The parts of a number are
those of its lexeme, so the lexeme found here also tells which parts of the number are absent.
-/

namespace UnitScan

/-- The spellings of the lexemes that a policy allows. -/
def language (p : Policy) : Set (List Char) := {w | ∃ l : Lexeme, l.Allowed p ∧ l.spelling = w}

/-- A text of the language, not the empty one, stands at the front of a text. -/
def HasMatch (p : Policy) (text : List Char) : Prop := ∃ w ∈ language p, w ≠ [] ∧ w <+: text

/-- What a text comes down to when pieces of a gap are removed as long as there is one. -/
def Gap.Leaves (p : Policy) (text rest : List Char) : Prop :=
  ∃ gap, text = gap ++ rest ∧ Gap.IsGap p gap rest ∧ Gap.Exhausted p rest

/-- A lexeme whose spelling is the longest text of the language at the front of a text, and the
only lexeme with that spelling. -/
structure Lexeme.LongestAt (p : Policy) (l : Lexeme) (text : List Char) : Prop where
  allowed : l.Allowed p
  front : l.spelling <+: text
  longest : ∀ w ∈ language p, w <+: text → w.length ≤ l.spelling.length
  unique : ∀ m : Lexeme, m.Allowed p → m.spelling = l.spelling → m = l

/-- A token that the language asks for where a text is left, with what is left after the token:
an end token, the token of the longest lexeme, or an error for one character. -/
structure Token.Answers (p : Policy) (text : List Char) (t : Token) (rest : List Char) : Prop where
  ended : text = [] → t.content = (.endOfInput, .none) ∧ rest = []
  longest : HasMatch p text →
    ∃ l : Lexeme, l.LongestAt p text ∧ t.content = l.content ∧ text = l.spelling ++ rest
  error_iff : text ≠ [] → (t.isError = true ↔ ¬HasMatch p text)
  error : t.isError = true →
    ∃ x, t.content = (.error, .text (Lexeme.strayMessage x)) ∧ text = x :: rest

variable {p : Policy}

theorem Gap.leaves_iff {text rest : List Char} :
    Gap.Leaves p text rest ↔ rest = (Gap.split p text).2 := by
  constructor
  · rintro ⟨gap, htext, hgap, hend⟩
    rw [Gap.split_eq_iff.mpr ⟨htext, hgap, hend⟩]
  · rintro rfl
    exact ⟨(Gap.split p text).1, Gap.split_eq_iff.mp rfl⟩

/-! ### Where the language has a text -/

theorem not_hasMatch_nil : ¬HasMatch p [] := by
  rintro ⟨w, _, hne, hpre⟩
  exact hne (List.prefix_nil.mp hpre)

theorem Lexeme.LongestAt.hasMatch {l : Lexeme} {text : List Char} (h : l.LongestAt p text) :
    HasMatch p text :=
  ⟨l.spelling, ⟨l, h.allowed, rfl⟩, h.allowed.spelling_ne_nil, h.front⟩

theorem not_hasMatch_of_startsNone {c : Char} (hc : Lexeme.StartsNone p c) (tail : List Char) :
    ¬HasMatch p (c :: tail) := by
  rintro ⟨w, ⟨l, hallowed, rfl⟩, _, hpre⟩
  exact Lexeme.not_prefix_of_startsNone hc hallowed tail hpre

/-- An allowed lexeme is the longest wherever it is read. -/
theorem Lexeme.longestAt_read {c : Char} {tail : List Char}
    (h : (Lexeme.read p c tail).1.Allowed p) :
    (Lexeme.read p c tail).1.LongestAt p (c :: tail) where
  allowed := h
  front := ⟨_, Lexeme.read_append p c tail⟩
  longest := by
    rintro w ⟨m, hm, rfl⟩ hpre
    exact Lexeme.length_spelling_le_read hm hpre
  unique := by
    intro m hm heq
    exact hm.eq_of_spelling_eq h heq

/-! ### The three answers -/

theorem Token.answers_endAt (pos : Position) : (Token.endAt pos).Answers p [] [] where
  ended := by
    intro _
    exact ⟨rfl, rfl⟩
  longest := by
    intro hmatch
    exact absurd hmatch not_hasMatch_nil
  error_iff := by
    intro hne
    exact absurd rfl hne
  error := by
    intro herror
    cases herror

theorem Lexeme.LongestAt.answers_token {l : Lexeme} {text rest : List Char}
    (h : l.LongestAt p text) (htext : text = l.spelling ++ rest) (pos : Position) :
    (l.token pos).Answers p text rest where
  ended := by
    intro hnil
    rw [hnil] at h
    exact absurd h.hasMatch not_hasMatch_nil
  longest := by
    intro _
    exact ⟨l, h, rfl, htext⟩
  error_iff := by
    intro _
    rw [h.allowed.isError_token]
    constructor
    · intro hfalse
      cases hfalse
    · intro hnot
      exact absurd h.hasMatch hnot
  error := by
    intro herror
    rw [h.allowed.isError_token] at herror
    cases herror

theorem Lexeme.answers_stray {c : Char} (hc : Lexeme.StartsNone p c) (pos : Position)
    (tail : List Char) : ((Lexeme.stray c).token pos).Answers p (c :: tail) tail where
  ended := by
    intro hnil
    cases hnil
  longest := by
    intro hmatch
    exact absurd hmatch (not_hasMatch_of_startsNone hc tail)
  error_iff := by
    intro _
    constructor
    · intro _
      exact not_hasMatch_of_startsNone hc tail
    · intro _
      rfl
  error := by
    intro _
    exact ⟨c, rfl, rfl⟩

/-- What is read where a lexeme begins is an answer there, at whatever position. -/
theorem Lexeme.answers_read (p : Policy) (c : Char) (tail : List Char) (pos : Position) :
    ((Lexeme.read p c tail).1.token pos).Answers p (c :: tail) (Lexeme.read p c tail).2 := by
  rcases Lexeme.allowed_read_or_startsNone p c tail with hallowed | hnone
  · apply (Lexeme.longestAt_read hallowed).answers_token
    exact (Lexeme.read_append p c tail).symm
  · rw [Lexeme.read_of_startsNone hnone]
    exact Lexeme.answers_stray hnone pos tail

/-- At every cursor a request removes the gap and answers with the longest text of the language
that stands at the front of the rest: with an end token where nothing is left, with the token of
the one lexeme of that spelling where there is such a text, and with an error for a single
character exactly where there is none. -/
theorem nextToken_longest (p : Policy) (c : Cursor) :
    ∃ text, (∀ r, Gap.Leaves p c.rest r ↔ r = text) ∧
      (c.nextToken p).1.Answers p text (c.nextToken p).2.rest := by
  refine ⟨(Gap.split p c.rest).2, fun r => Gap.leaves_iff, ?_⟩
  cases hsplit : (Gap.split p c.rest).2 with
  | nil =>
      have hnext : Reading.next? p c.rest = none := Reading.next?_eq_none_iff.mpr hsplit
      have hrest : (c.nextToken p).2.rest = [] := Cursor.rest_nextToken_of_next?_eq_none hnext
      rw [hrest, Cursor.nextToken_of_next?_eq_none hnext]
      exact Token.answers_endAt _
  | cons x tail =>
      have hnext := Reading.next?_of_split_eq_cons hsplit
      rw [Cursor.token_nextToken hnext, Cursor.rest_nextToken hnext]
      exact Lexeme.answers_read p x tail _

end UnitScan

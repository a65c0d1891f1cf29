import UnitScan.Proofs.TokenPositions

/-!
# The tape of a text

The tape of a text is the sequence of its tokens, followed by end tokens that go on forever and
are all the same. A reader of the tape knows only how many tokens it has been handed and whether
its sequence has stopped. Every request to a token stream has a reading on the tape, and none of
them looks at a character.

A reader may have been shown one token more than it has been handed, so the number of tokens
that were scanned is kept beside the reader. `Tape.endCursor` is the cursor at the end of the
last of them, computed from the text.
-/

namespace UnitScan

/-! ### Cursors by their offset -/

/-- The cursor of a text that has passed the given number of its characters. -/
def Cursor.atOffset (text : List Char) (offset : Nat) : Cursor where
  passed := (text.take offset).reverse
  rest := text.drop offset
  position := Position.atOffset text offset

namespace Cursor

theorem ofText_eq_atOffset (text : List Char) : ofText text 1 = atOffset text 0 := by
  simp [ofText, atOffset, Position.atOffset, Text.lastLine]

theorem position_atOffset (text : List Char) (offset : Nat) :
    (atOffset text offset).position = Position.start.after (text.take offset) :=
  (Position.start_after_take text offset).symm

/-- No cursor moves beyond the end of its text. -/
theorem atOffset_of_length_le {text : List Char} {offset : Nat} (h : text.length ≤ offset) :
    atOffset text offset = atOffset text text.length := by
  simp only [atOffset, Position.atOffset, List.take_of_length_le h, List.drop_of_length_le h,
    List.take_length, List.drop_length]

theorem advance_atOffset (text : List Char) (offset : Nat) :
    (atOffset text offset).advance.2 = atOffset text (offset + 1) := by
  cases hdrop : text.drop offset with
  | nil =>
      have hlen : text.length ≤ offset := List.drop_eq_nil_iff.mp hdrop
      rw [atOffset_of_length_le hlen, atOffset_of_length_le (Nat.le_succ_of_le hlen)]
      simp [advance, atOffset]
  | cons x rest =>
      have hget : text[offset]? = some x := by
        rw [← List.head?_drop, hdrop, List.head?_cons]
      have htake : text.take (offset + 1) = text.take offset ++ [x] := by
        rw [List.take_add_one, hget, Option.toList_some]
      have hrest : text.drop (offset + 1) = rest := by
        rw [← List.tail_drop, hdrop, List.tail_cons]
      have hpos : (Position.atOffset text offset).advance x =
          Position.atOffset text (offset + 1) := by
        rw [← Position.start_after_take, ← Position.start_after_take, htake,
          Position.after_append, Position.after_cons, Position.after_nil]
      simp only [advance, atOffset, hdrop, hpos, htake, hrest, List.reverse_append,
        List.reverse_singleton, List.singleton_append]

theorem skip_atOffset (text : List Char) (offset n : Nat) :
    (atOffset text offset).skip n = atOffset text (offset + n) := by
  induction n generalizing offset with
  | zero => rfl
  | succ n ih => rw [skip_succ, advance_atOffset, ih, Nat.add_right_comm, Nat.add_assoc]

end Cursor

/-! ### Where tokens end -/

section Ends

variable {p : Policy} {text : List Char} {r : Reading} {k : Nat}

theorem head?_readings (p : Policy) (text : List Char) :
    (readings p text).head? = Reading.next? p text := by
  cases hnext : Reading.next? p text with
  | none => rw [readings_of_next?_eq_none hnext, List.head?_nil]
  | some r => rw [readings_of_next?_eq_some hnext, List.head?_cons]

/-- The later steps of a scan are the steps of what a step has left. -/
theorem drop_readings (h : (readings p text)[k]? = some r) :
    (readings p text).drop (k + 1) = readings p r.rest := by
  fun_induction readings p text generalizing k with
  | case1 text hnone => cases h
  | case2 text s hsome ih =>
      cases k with
      | zero =>
          cases h
          rfl
      | succ k => exact ih h

/-- How many characters of a text stand before the end of its first `k` tokens. An end token
ends where the text ends. -/
def endOffset (p : Policy) (text : List Char) : Nat → Nat
  | 0 => 0
  | k + 1 =>
    (readings p text)[k]?.elim text.length fun r => r.offset text + r.lexeme.spelling.length

/-- What is left after the first tokens of a text begins with the step of the next one. -/
theorem next?_drop_endOffset (p : Policy) (text : List Char) (k : Nat) :
    Reading.next? p (text.drop (endOffset p text k)) = (readings p text)[k]? := by
  cases k with
  | zero => rw [endOffset, List.drop_zero, ← head?_readings, List.head?_eq_getElem?]
  | succ k =>
      cases hk : (readings p text)[k]? with
      | none =>
          have hle : (readings p text).length ≤ k := List.getElem?_eq_none_iff.mp hk
          have hnil : Reading.next? p [] = none := by
            rw [Reading.next?_eq_none_iff, Gap.split_of_piece?_eq_none rfl]
          rw [endOffset, hk, Option.elim_none, List.drop_length, hnil]
          exact (List.getElem?_eq_none (Nat.le_succ_of_le hle)).symm
      | some r =>
          have hmem : r ∈ readings p text := List.mem_of_getElem? hk
          have hrest : text.drop (endOffset p text (k + 1)) = r.rest := by
            rw [endOffset, hk, Option.elim_some, ← List.drop_drop,
              drop_offset_of_mem_readings hmem, List.drop_left]
          rw [hrest, ← head?_readings, ← drop_readings hk, List.head?_drop]

end Ends

/-! ### Requests -/

/-- What can be asked of a token stream. -/
inductive TokenStream.Request
  /-- Hand out the next token. -/
  | nextToken
  /-- Show the next token. -/
  | peek
  /-- The next member of the sequence. -/
  | next
  /-- All further members of the sequence. -/
  | toList
  /-- All further members of the sequence before its end token. -/
  | drain
  deriving DecidableEq, Repr

/-- What a request to a token stream is answered with. -/
inductive TokenStream.Answer
  | token (t : Token)
  /-- The sequence has stopped. -/
  | stopped
  | tokens (ts : List Token)
  | failed (f : StreamFailure)
  deriving DecidableEq, Repr

/-! ### The tape and its readers -/

/-- The tokens of a text, and the end token that follows them forever. -/
structure Tape where
  tokens : List Token
  last : Token
  deriving DecidableEq, Repr

namespace Tape

open TokenStream (Request Answer)

/-- The tape of a text: its tokens, and the end token at its end. -/
def ofText (p : Policy) (text : List Char) : Tape where
  tokens := UnitScan.tokens p text
  last := .endAt (Position.atOffset text text.length)

/-- The token at a place of the tape. -/
def token (T : Tape) (i : Nat) : Token := T.tokens[i]?.getD T.last

/-- A reader of a tape: how many tokens it has been handed, and whether its sequence has met
the end token. -/
structure Reader where
  index : Nat
  finished : Bool
  deriving DecidableEq, Repr

/-- The reader that has been handed nothing. -/
def Reader.start : Reader := ⟨0, false⟩

/-- The next member of a reader's sequence, unless the sequence has met the end token. -/
def next? (T : Tape) (m : Reader) : Option (Token × Reader) :=
  if m.finished then none else some (T.token m.index, ⟨m.index + 1, (T.token m.index).isEnd⟩)

/-- The reader that has been handed everything up to its next end token. -/
def exhaust (T : Tape) (m : Reader) : Reader := ⟨max m.index T.tokens.length + 1, true⟩

/-- The answer to a request, and the reader after it. -/
def answer (T : Tape) (m : Reader) : Request → Answer × Reader
  | .nextToken => (.token (T.token m.index), { m with index := m.index + 1 })
  | .peek => (.token (T.token m.index), m)
  | .next =>
    match T.next? m with
    | none => (.stopped, m)
    | some (t, m) => (.token t, m)
  | .toList =>
    if m.finished then (.tokens [], m)
    else (.tokens (T.tokens.drop m.index ++ [T.last]), T.exhaust m)
  | .drain =>
    if m.finished then (.failed { collected := 0 }, m)
    else (.tokens (T.tokens.drop m.index), T.exhaust m)

/-- The members that a sequence hands out one after the other until it stops, and what it has
become then. -/
inductive Repeats {σ : Type} (next? : σ → Option (Token × σ)) : σ → List Token → σ → Prop
  | stop {s : σ} (h : next? s = none) : Repeats next? s [] s
  | step {s s' last : σ} {t : Token} {ts : List Token} (h : next? s = some (t, s'))
      (later : Repeats next? s' ts last) : Repeats next? s (t :: ts) last

/-- A reader with the number of tokens that were scanned for it. -/
structure Progress where
  reader : Reader
  scanned : Nat
  deriving DecidableEq, Repr

/-- Nothing has been handed out, and nothing has been scanned. -/
def Progress.start : Progress := ⟨.start, 0⟩

/-- Everything that was handed out has been scanned, and at most one token more. -/
structure Progress.Near (g : Progress) : Prop where
  handed : g.reader.index ≤ g.scanned
  ahead : g.scanned ≤ g.reader.index + 1

/-- How many tokens must have been scanned after a request. A token that is shown is one more
than those handed out. -/
def needed : Request → Reader → Nat
  | .peek, m => m.index + 1
  | _, m => m.index

/-- The answer to a request, with all that was scanned so far. Nothing is scanned before it is
needed. -/
def step (T : Tape) (g : Progress) (request : Request) : Answer × Progress :=
  let (a, m) := T.answer g.reader request
  (a, ⟨m, max g.scanned (needed request m)⟩)

/-- The cursor at the end of the last token that was scanned. -/
def endCursor (p : Policy) (text : List Char) (scanned : Nat) : Cursor :=
  .atOffset text (endOffset p text scanned)

end Tape

/-! ### The places of a tape -/

section Places

variable {p : Policy} {text : List Char}

theorem tokens_eq_map_place (p : Policy) (text : List Char) :
    tokens p text = (readings p text).map fun r => r.lexeme.token (r.place text) := by
  rw [tokens_eq_map]
  simp only [Position.start_after_take, Reading.place]

namespace Tape

@[simp] theorem tokens_ofText (p : Policy) (text : List Char) :
    (ofText p text).tokens = UnitScan.tokens p text := rfl

theorem token_of_getElem?_readings {r : Reading} {i : Nat} (h : (readings p text)[i]? = some r) :
    (ofText p text).token i = r.lexeme.token (r.place text) := by
  simp [token, ofText, tokens_eq_map_place, h]

theorem token_of_length_le {i : Nat} (h : (UnitScan.tokens p text).length ≤ i) :
    (ofText p text).token i = .endAt (Position.atOffset text text.length) := by
  simp [token, ofText, h]

theorem isEnd_token_of_lt {i : Nat} (h : i < (UnitScan.tokens p text).length) :
    ((ofText p text).token i).isEnd = false := by
  have htoken : (ofText p text).token i = (UnitScan.tokens p text)[i] := by
    simp [token, ofText, h]
  rw [htoken]
  exact isEnd_of_mem_tokens (List.getElem_mem h)

/-! ### Rests of a tape -/

theorem cons_drop {i : Nat} (h : i < (UnitScan.tokens p text).length) :
    (ofText p text).token i :: (UnitScan.tokens p text).drop (i + 1) =
      (UnitScan.tokens p text).drop i := by
  simp [token, ofText, h]

theorem exhaust_of_length_le {m : Reader} (h : (UnitScan.tokens p text).length ≤ m.index) :
    (ofText p text).exhaust m = ⟨m.index + 1, true⟩ := by
  rw [exhaust, tokens_ofText, Nat.max_eq_left h]

/-- A reader that is handed a token of the text comes to the same end as before. -/
theorem exhaust_of_lt {m : Reader} (h : m.index < (UnitScan.tokens p text).length)
    (finished : Bool) :
    (ofText p text).exhaust ⟨m.index + 1, finished⟩ = (ofText p text).exhaust m := by
  simp only [exhaust, tokens_ofText, Nat.max_eq_right h, Nat.max_eq_right (Nat.le_of_lt h)]

theorem lt_index_exhaust (T : Tape) (m : Reader) : m.index < (T.exhaust m).index :=
  Nat.lt_succ_of_le (Nat.le_max_left _ _)

theorem next?_of_not_finished {m : Reader} (T : Tape) (h : m.finished = false) :
    T.next? m = some (T.token m.index, ⟨m.index + 1, (T.token m.index).isEnd⟩) := by
  rw [next?, h, if_neg Bool.false_ne_true]

/-- The later tokens of the text and one end token are what a reader is handed until its
sequence stops. -/
theorem repeats_next? {m : Reader} (h : m.finished = false) :
    Repeats (ofText p text).next? m
      ((UnitScan.tokens p text).drop m.index ++ [(ofText p text).last])
      ((ofText p text).exhaust m) := by
  induction hleft : (UnitScan.tokens p text).length - m.index generalizing m with
  | zero =>
      have hle : (UnitScan.tokens p text).length ≤ m.index := Nat.le_of_sub_eq_zero hleft
      have hnext := next?_of_not_finished (ofText p text) h
      rw [token_of_length_le hle] at hnext
      rw [List.drop_of_length_le hle, exhaust_of_length_le hle]
      exact Repeats.step hnext (Repeats.stop rfl)
  | succ left ih =>
      have hlt : m.index < (UnitScan.tokens p text).length := by omega
      have hnext := next?_of_not_finished (ofText p text) h
      rw [isEnd_token_of_lt hlt] at hnext
      rw [← cons_drop hlt, List.cons_append, ← exhaust_of_lt hlt false]
      have hleft' : (UnitScan.tokens p text).length - (m.index + 1) = left := by omega
      exact Repeats.step hnext (ih rfl hleft')

/-- A list of what is left for a reader is what it is handed until its sequence stops. -/
theorem exists_repeats_toList (p : Policy) (text : List Char) (m : Reader) :
    ∃ ts m', (ofText p text).answer m .toList = (.tokens ts, m') ∧
      Repeats (ofText p text).next? m ts m' := by
  cases hf : m.finished with
  | true =>
      refine ⟨[], m, by simp [answer, hf], Repeats.stop ?_⟩
      simp [next?, hf]
  | false =>
      refine ⟨_, _, ?_, repeats_next? hf⟩
      simp [answer, hf]

/-! ### Cursors between the tokens of a tape -/

/-- A cursor at the end of a token reads the next token of the tape, and then stands at the end
of that one. -/
theorem nextToken_endCursor (p : Policy) (text : List Char) (k : Nat) :
    (endCursor p text k).nextToken p = ((ofText p text).token k, endCursor p text (k + 1)) := by
  have hnext := next?_drop_endOffset p text k
  cases hk : (readings p text)[k]? with
  | none =>
      rw [hk] at hnext
      have hlen : (UnitScan.tokens p text).length ≤ k := by
        rw [tokens_eq_map, List.length_map]
        exact List.getElem?_eq_none_iff.mp hk
      rw [token_of_length_le hlen]
      have hend : endCursor p text (k + 1) = Cursor.atOffset text text.length := by
        rw [endCursor, endOffset, hk, Option.elim_none]
      have hskip : (endCursor p text k).skip (endCursor p text k).rest.length =
          Cursor.atOffset text text.length := by
        rw [endCursor, Cursor.skip_atOffset]
        apply Cursor.atOffset_of_length_le
        simp only [Cursor.atOffset, List.length_drop]
        omega
      have hpos : (endCursor p text k).position.after (endCursor p text k).rest =
          Position.atOffset text text.length := by
        rw [endCursor, Cursor.position_atOffset, ← Position.after_append,
          Cursor.atOffset, List.take_append_drop, ← Position.start_after_take, List.take_length]
      rw [Cursor.nextToken_of_next?_eq_none hnext, hpos, hskip, hend]
  | some r =>
      rw [hk] at hnext
      have hoffset : endOffset p text k + r.gap.length = r.offset text := by
        have hlt := Reading.length_next?_lt hnext
        have happend := Reading.offset_append hnext (text.take (endOffset p text k))
        rw [List.take_append_drop, List.length_append, List.length_take] at happend
        rw [List.length_drop] at hlt
        omega
      have hend : endOffset p text (k + 1) = r.offset text + r.lexeme.spelling.length := by
        rw [endOffset, hk, Option.elim_some]
      have hrest : (endCursor p text k).rest = text.drop (endOffset p text k) := rfl
      rw [Cursor.nextToken, hrest, hnext]
      simp only [endCursor, Cursor.skip_atOffset, hoffset, hend]
      rw [token_of_getElem?_readings hk, Reading.place, Cursor.atOffset]

end Tape

end Places

end UnitScan

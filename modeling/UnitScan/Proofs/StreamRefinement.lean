import UnitScan.Proofs.TokenTape
import UnitScan.Token.Drain

/-!
# Token streams read the tape of their text

A token stream has a cursor, perhaps a token that it has shown but not handed out, and a note of
whether its sequence has stopped. Whatever is asked of it, in whatever order, it answers as a
reader of the tape of its text does, and its cursor stands at the end of the last token that had
to be scanned for the answers.

## Implementation notes

`Represents` says which progress on the tape a stream stands for. A stream with a shown token has
scanned one token more than it has handed out, any other one exactly as many, so the bound on
how far a stream reads ahead is part of the representation.
-/

namespace UnitScan

open TokenStream (Request Answer)

/-- The answer of a token stream to a request, and the stream after it. -/
def TokenStream.answer (s : TokenStream) : Request → Answer × TokenStream
  | .nextToken => (.token s.nextToken.1, s.nextToken.2)
  | .peek => (.token s.peek.1, s.peek.2)
  | .next =>
    match s.next? with
    | none => (.stopped, s)
    | some (t, s) => (.token t, s)
  | .toList => (.tokens s.toList.1, s.toList.2)
  | .drain =>
    match s.drain.1.value with
    | .ok ts => (.tokens ts, s.drain.2)
    | .error f => (.failed f, s.drain.2)

section Traces

variable {σ τ : Type}

/-- The answers to requests made one after the other, each with the cursor after it. -/
def trace (answer : σ → Request → Answer × σ) (cursor : σ → Cursor) :
    List Request → σ → List (Answer × Cursor)
  | [], _ => []
  | r :: rs, s =>
    ((answer s r).1, cursor (answer s r).2) :: trace answer cursor rs (answer s r).2

/-- What has become of a state after requests made one after the other. -/
def after (answer : σ → Request → Answer × σ) (rs : List Request) (s : σ) : σ :=
  rs.foldl (fun s r => (answer s r).2) s

/-- States that answer alike and stay related have the same traces, and are related in the
end. -/
theorem trace_eq_of_related {answer₁ : σ → Request → Answer × σ}
    {answer₂ : τ → Request → Answer × τ} {cursor₁ : σ → Cursor} {cursor₂ : τ → Cursor}
    (R : σ → τ → Prop) (hcursor : ∀ s t, R s t → cursor₁ s = cursor₂ t)
    (hstep : ∀ r s t, R s t →
      (answer₁ s r).1 = (answer₂ t r).1 ∧ R (answer₁ s r).2 (answer₂ t r).2)
    (rs : List Request) {s : σ} {t : τ} (h : R s t) :
    trace answer₁ cursor₁ rs s = trace answer₂ cursor₂ rs t ∧
      R (after answer₁ rs s) (after answer₂ rs t) := by
  induction rs generalizing s t with
  | nil => exact ⟨rfl, h⟩
  | cons r rs ih =>
      obtain ⟨hanswer, hrelated⟩ := hstep r s t h
      obtain ⟨htrace, hafter⟩ := ih hrelated
      refine ⟨?_, hafter⟩
      rw [trace, trace, hanswer, hcursor _ _ hrelated, htrace]

end Traces

namespace TokenStream

/-- A token stream that stands for a reader of the tape of a text. The shown token, if there is
one, is the next one of the reader, and has been scanned; nothing else has been scanned that was
not handed out. -/
structure Represents (p : Policy) (text : List Char) (s : TokenStream) (g : Tape.Progress) :
    Prop where
  policy : s.policy = p
  cursor : s.cursor = Tape.endCursor p text g.scanned
  finished : s.finished = g.reader.finished
  lookahead : s.lookahead = none ∧ g.scanned = g.reader.index ∨
    s.lookahead = some ((Tape.ofText p text).token g.reader.index) ∧
      g.scanned = g.reader.index + 1

theorem represents_ofText (p : Policy) (text : List Char) :
    Represents p text (ofText p text) .start where
  policy := rfl
  cursor := Cursor.ofText_eq_atOffset text
  finished := rfl
  lookahead := Or.inl ⟨rfl, rfl⟩

theorem peek_peek (s : TokenStream) : s.peek.2.peek = s.peek := by
  cases hl : s.lookahead <;> simp [peek, hl]

namespace Represents

variable {p : Policy} {text : List Char} {s : TokenStream} {g : Tape.Progress}

theorem near (h : Represents p text s g) : g.Near := by
  rcases h.lookahead with ⟨-, hscanned⟩ | ⟨-, hscanned⟩
  · exact ⟨Nat.le_of_eq hscanned.symm, hscanned ▸ Nat.le_succ _⟩
  · exact ⟨hscanned ▸ Nat.le_succ _, Nat.le_of_eq hscanned⟩

/-- Whether the sequence has stopped has no bearing on what has been scanned. -/
theorem setFinished (h : Represents p text s g) (finished : Bool) :
    Represents p text { s with finished } ⟨{ g.reader with finished }, g.scanned⟩ where
  policy := h.policy
  cursor := h.cursor
  finished := rfl
  lookahead := h.lookahead

/-! ### Single requests -/

/-- A stream that has not read ahead reads the next token of the tape. -/
theorem nextToken_cursor (h : Represents p text s g) (hscanned : g.scanned = g.reader.index) :
    s.cursor.nextToken s.policy = ((Tape.ofText p text).token g.reader.index,
      Tape.endCursor p text (g.reader.index + 1)) := by
  rw [h.policy, h.cursor, hscanned, Tape.nextToken_endCursor]

theorem nextToken (h : Represents p text s g) :
    s.nextToken.1 = (Tape.ofText p text).token g.reader.index ∧
      Represents p text s.nextToken.2
        ⟨{ g.reader with index := g.reader.index + 1 }, g.reader.index + 1⟩ := by
  rcases h.lookahead with ⟨hnone, hscanned⟩ | ⟨hsome, hscanned⟩
  · have hcursor := h.nextToken_cursor hscanned
    simp only [TokenStream.nextToken, hnone, hcursor, true_and]
    exact ⟨h.policy, rfl, h.finished, Or.inl ⟨rfl, rfl⟩⟩
  · simp only [TokenStream.nextToken, hsome, true_and]
    exact ⟨h.policy, hscanned ▸ h.cursor, h.finished, Or.inl ⟨rfl, rfl⟩⟩

theorem peek (h : Represents p text s g) :
    s.peek.1 = (Tape.ofText p text).token g.reader.index ∧
      Represents p text s.peek.2 ⟨g.reader, g.reader.index + 1⟩ := by
  rcases h.lookahead with ⟨hnone, hscanned⟩ | ⟨hsome, hscanned⟩
  · have hcursor := h.nextToken_cursor hscanned
    simp only [TokenStream.peek, hnone, hcursor, true_and]
    exact ⟨h.policy, rfl, h.finished, Or.inr ⟨rfl, rfl⟩⟩
  · simp only [TokenStream.peek, hsome, true_and]
    exact ⟨h.policy, hscanned ▸ h.cursor, h.finished, Or.inr ⟨hsome, rfl⟩⟩

theorem next?_of_finished (h : Represents p text s g) (hf : g.reader.finished = true) :
    s.next? = none := by
  rw [TokenStream.next?, h.finished, if_pos hf]

/-- A sequence that has not stopped hands out the next token of the tape, and stops if that is
an end token. -/
theorem next?_of_not_finished (h : Represents p text s g) (hf : g.reader.finished = false) :
    ∃ s', s.next? = some ((Tape.ofText p text).token g.reader.index, s') ∧
      Represents p text s' ⟨⟨g.reader.index + 1,
        ((Tape.ofText p text).token g.reader.index).isEnd⟩, g.reader.index + 1⟩ := by
  obtain ⟨htoken, hrep⟩ := h.nextToken
  refine ⟨_, ?_, hrep.setFinished _⟩
  simp [TokenStream.next?, h.finished, hf, htoken]

/-! ### Whole sequences -/

theorem toList_of_finished (h : Represents p text s g) (hf : g.reader.finished = true) :
    s.toList = ([], s) := by
  rw [TokenStream.toList]
  split
  · rfl
  · next hsome => rw [h.next?_of_finished hf] at hsome; cases hsome

/-- The members of a sequence that has not stopped are the later tokens of the text and one end
token. -/
theorem toList_of_not_finished (h : Represents p text s g) (hf : g.reader.finished = false) :
    s.toList.1 = (tokens p text).drop g.reader.index ++ [(Tape.ofText p text).last] ∧
      Represents p text s.toList.2 ⟨(Tape.ofText p text).exhaust g.reader,
        ((Tape.ofText p text).exhaust g.reader).index⟩ := by
  induction hleft : (tokens p text).length - g.reader.index generalizing s g with
  | zero =>
      have hle : (tokens p text).length ≤ g.reader.index := Nat.le_of_sub_eq_zero hleft
      obtain ⟨s', hnext, hrep⟩ := h.next?_of_not_finished hf
      rw [Tape.token_of_length_le hle] at hnext hrep
      rw [toList_of_next?_eq_end hnext rfl, List.drop_of_length_le hle,
        Tape.exhaust_of_length_le hle]
      exact ⟨rfl, hrep⟩
  | succ left ih =>
      have hlt : g.reader.index < (tokens p text).length := by omega
      obtain ⟨s', hnext, hrep⟩ := h.next?_of_not_finished hf
      have hend := Tape.isEnd_token_of_lt hlt
      rw [hend] at hrep
      have hleft' : (tokens p text).length - (g.reader.index + 1) = left := by omega
      obtain ⟨hlist, hlast⟩ := ih hrep rfl hleft'
      rw [toList_of_next?_eq_some hnext hend, ← Tape.cons_drop hlt, List.cons_append,
        ← Tape.exhaust_of_lt hlt false]
      exact ⟨congrArg (List.cons _) hlist, hlast⟩

theorem drain_of_finished (h : Represents p text s g) (hf : g.reader.finished = true) :
    s.drain.1.value = .error { collected := 0 } ∧ s.drain.2 = s := by
  rw [TokenStream.drain, h.toList_of_finished hf]
  exact ⟨rfl, rfl⟩

theorem drain_of_not_finished (h : Represents p text s g) (hf : g.reader.finished = false) :
    s.drain.1.value = .ok ((tokens p text).drop g.reader.index) ∧
      s.drain.2 = s.toList.2 := by
  refine ⟨?_, rfl⟩
  have hopen : ∀ t ∈ (tokens p text).drop g.reader.index, t.isEnd = false :=
    fun _ ht => isEnd_of_mem_tokens (List.mem_of_mem_drop ht)
  rw [TokenStream.drain, (h.toList_of_not_finished hf).1, Token.drain_append_end hopen rfl]

/-- Whatever is asked, a stream answers as the reader that it stands for, and stands for what
has become of the reader. -/
theorem answer (h : Represents p text s g) (r : Request) :
    (s.answer r).1 = ((Tape.ofText p text).step g r).1 ∧
      Represents p text (s.answer r).2 ((Tape.ofText p text).step g r).2 := by
  have hahead : max g.scanned (g.reader.index + 1) = g.reader.index + 1 :=
    Nat.max_eq_right h.near.ahead
  have hbehind : max g.scanned g.reader.index = g.scanned := Nat.max_eq_left h.near.handed
  have hexhaust : max g.scanned ((Tape.ofText p text).exhaust g.reader).index =
      ((Tape.ofText p text).exhaust g.reader).index := by
    apply Nat.max_eq_right
    exact h.near.ahead.trans (Tape.lt_index_exhaust _ _)
  cases r with
  | nextToken =>
      obtain ⟨htoken, hrep⟩ := h.nextToken
      simp only [TokenStream.answer, Tape.step, Tape.answer, Tape.needed, htoken, hahead, true_and]
      exact hrep
  | peek =>
      obtain ⟨htoken, hrep⟩ := h.peek
      simp only [TokenStream.answer, Tape.step, Tape.answer, Tape.needed, htoken, hahead, true_and]
      exact hrep
  | next =>
      cases hf : g.reader.finished with
      | true =>
          simp only [TokenStream.answer, Tape.step, Tape.answer, Tape.needed, Tape.next?,
            h.next?_of_finished hf, hf, if_true, hbehind, true_and]
          exact h
      | false =>
          obtain ⟨s', hnext, hrep⟩ := h.next?_of_not_finished hf
          simp only [TokenStream.answer, Tape.step, Tape.answer, Tape.needed,
            Tape.next?_of_not_finished _ hf, hnext, hahead, true_and]
          exact hrep
  | toList =>
      cases hf : g.reader.finished with
      | true =>
          simp only [TokenStream.answer, Tape.step, Tape.answer, Tape.needed,
            h.toList_of_finished hf, hf, if_true, hbehind, true_and]
          exact h
      | false =>
          obtain ⟨hlist, hrep⟩ := h.toList_of_not_finished hf
          simp only [TokenStream.answer, Tape.step, Tape.answer, Tape.needed, hf, hlist, hexhaust,
            Tape.tokens_ofText, Bool.false_eq_true, if_false, true_and]
          exact hrep
  | drain =>
      cases hf : g.reader.finished with
      | true =>
          obtain ⟨hfailed, hsame⟩ := h.drain_of_finished hf
          simp only [TokenStream.answer, Tape.step, Tape.answer, Tape.needed, hfailed, hsame, hf,
            if_true, hbehind, true_and]
          exact h
      | false =>
          obtain ⟨hdrained, hsame⟩ := h.drain_of_not_finished hf
          simp only [TokenStream.answer, Tape.step, Tape.answer, Tape.needed, hdrained, hsame, hf,
            hexhaust, Tape.tokens_ofText, Bool.false_eq_true, if_false, true_and]
          exact (h.toList_of_not_finished hf).2

end Represents

/-- A token stream on a text answers any requests, made in any order, as a reader of the tape of
the text does, and after each of them its cursor stands at the end of the last token that had to
be scanned. It is never more than one token ahead of what it has handed out, and showing a token
again changes nothing. A list of what is left has the members that the sequence hands out one
after the other until it stops. -/
theorem trace_ofText (p : Policy) (text : List Char) (rs : List Request) :
    trace answer cursor rs (ofText p text) =
        trace (Tape.ofText p text).step (fun g => Tape.endCursor p text g.scanned) rs .start ∧
      (after (Tape.ofText p text).step rs .start).Near ∧
      (after answer rs (ofText p text)).peek.2.peek = (after answer rs (ofText p text)).peek ∧
      ∀ m, ∃ ts m', (Tape.ofText p text).answer m .toList = (.tokens ts, m') ∧
        Tape.Repeats (Tape.ofText p text).next? m ts m' := by
  have hcursor : ∀ s g, Represents p text s g → s.cursor = Tape.endCursor p text g.scanned :=
    fun _ _ h => h.cursor
  have hstart := represents_ofText p text
  obtain ⟨htrace, hafter⟩ :=
    trace_eq_of_related (Represents p text) hcursor (fun r _ _ h => h.answer r) rs hstart
  exact ⟨htrace, hafter.near, peek_peek _, Tape.exists_repeats_toList p text⟩

end TokenStream

end UnitScan

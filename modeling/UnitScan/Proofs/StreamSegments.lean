import UnitScan.Token.Drain
import Mathlib.Logic.Function.Iterate

/-!
# Draining a stream again and again

End tokens may stand anywhere in a stream that comes from elsewhere, and any number of them. They
divide the stream into segments, one more than there are end tokens. Draining the stream again and
again reads the segments one after the other, each together with the end token behind it, and then
fails on the last segment, which has no end token behind it. `reads_leftAfter` says so for each
call.
-/

namespace UnitScan.Token

/-- The parts into which the end tokens divide a stream. -/
def segments (stream : List Token) : List (List Token) := stream.splitOnP isEnd

/-- What is left of a stream after it was drained a number of times. -/
def leftAfter (stream : List Token) (calls : Nat) : List Token :=
  (fun left => (drain left).2)^[calls] stream

/-- Draining a stream answers with a segment. It takes the segment and one end token off the
stream, and it logs how long the segment is and how many errors are in it. -/
structure Reads (stream segment left : List Token) : Prop where
  value : (drain stream).1.value = .ok segment
  taken : ∃ e : Token, e.isEnd = true ∧ stream = segment ++ e :: left
  left : (drain stream).2 = left
  records : (drain stream).1.records =
    [⟨.debug, "unitlex.lexer.driver", "collected " ++ toString segment.length ++ " tokens (" ++
      toString (segment.countP isError) ++ " errors)"⟩]

/-- Draining a stream fails. It takes all that is left of the stream, and it logs how much this
was. -/
structure RunsOut (stream : List Token) : Prop where
  value : (drain stream).1.value = .error { collected := stream.length }
  left : (drain stream).2 = []
  records : (drain stream).1.records =
    [⟨.error, "unitlex.lexer.driver",
      "token stream ended without EOF after " ++ toString stream.length ++ " tokens"⟩]

/-! ### One call -/

section Call

variable {stream segment left : List Token} {e : Token}

/-- A stream has a first end token, or none. -/
theorem exists_end_or_forall (stream : List Token) :
    (∃ segment e left, stream = segment ++ e :: left ∧ (∀ t ∈ segment, t.isEnd = false) ∧
      e.isEnd = true) ∨ ∀ t ∈ stream, t.isEnd = false := by
  induction stream with
  | nil => exact Or.inr (List.forall_mem_nil _)
  | cons t stream ih =>
      cases hend : t.isEnd with
      | true => exact Or.inl ⟨[], t, stream, rfl, List.forall_mem_nil _, hend⟩
      | false =>
          rcases ih with ⟨segment, e, left, rfl, hsegment, he⟩ | hnone
          · exact Or.inl ⟨t :: segment, e, left, rfl,
              List.forall_mem_cons.mpr ⟨hend, hsegment⟩, he⟩
          · exact Or.inr (List.forall_mem_cons.mpr ⟨hend, hnone⟩)

theorem reads_append_end (h : ∀ t ∈ segment, t.isEnd = false) (he : e.isEnd = true) :
    Reads (segment ++ e :: left) segment left where
  value := by rw [drain_append_end h he]
  taken := ⟨e, he, rfl⟩
  left := by rw [drain_append_end h he]
  records := by
    rw [drain_append_end h he]
    rfl

theorem runsOut_of_forall (h : ∀ t ∈ stream, t.isEnd = false) : RunsOut stream where
  value := by rw [drain_of_forall h]
  left := by rw [drain_of_forall h]
  records := by
    rw [drain_of_forall h]
    rfl

theorem segments_append_end (h : ∀ t ∈ segment, t.isEnd = false) (he : e.isEnd = true) :
    segments (segment ++ e :: left) = segment :: segments left :=
  List.splitOnP_append_cons_of_forall_mem h e he left

theorem segments_of_forall (h : ∀ t ∈ stream, t.isEnd = false) : segments stream = [stream] :=
  List.splitOnP_eq_singleton h

theorem countP_of_forall (h : ∀ t ∈ stream, t.isEnd = false) : stream.countP isEnd = 0 :=
  List.countP_eq_zero.mpr (by simpa using h)

theorem countP_append_end (h : ∀ t ∈ segment, t.isEnd = false) (he : e.isEnd = true) :
    (segment ++ e :: left).countP isEnd = left.countP isEnd + 1 := by
  rw [List.countP_append, List.countP_cons_of_pos he, countP_of_forall h, Nat.zero_add]

theorem leftAfter_append_end (h : ∀ t ∈ segment, t.isEnd = false) (he : e.isEnd = true)
    (calls : Nat) :
    leftAfter (segment ++ e :: left) (calls + 1) = leftAfter left calls := by
  rw [leftAfter, Function.iterate_succ_apply, drain_append_end h he, leftAfter]

end Call

/-! ### All calls -/

/-- A stream is a segment without an end token behind it, or a segment, an end token and another
stream. -/
@[elab_as_elim]
theorem segmentInduction {motive : List Token → Prop}
    (last : ∀ stream, (∀ t ∈ stream, t.isEnd = false) → motive stream)
    (cut : ∀ segment e left, (∀ t ∈ segment, t.isEnd = false) → e.isEnd = true → motive left →
      motive (segment ++ e :: left))
    (stream : List Token) : motive stream := by
  induction hlength : stream.length using Nat.strongRecOn generalizing stream with
  | ind length ih =>
      rcases exists_end_or_forall stream with ⟨segment, e, left, rfl, hsegment, he⟩ | hnone
      · have hshorter : left.length < length := by
          rw [← hlength, List.length_append, List.length_cons]
          omega
        exact cut segment e left hsegment he (ih left.length hshorter left rfl)
      · exact last stream hnone

/-- A stream has one segment more than it has end tokens. -/
theorem length_segments (stream : List Token) :
    (segments stream).length = stream.countP isEnd + 1 := by
  induction stream using segmentInduction with
  | last stream hnone =>
      rw [segments_of_forall hnone, countP_of_forall hnone]
      rfl
  | cut segment e left hsegment he ih =>
      rw [segments_append_end hsegment he, countP_append_end hsegment he, List.length_cons, ih]

theorem isEnd_of_mem_segments {stream segment : List Token} (h : segment ∈ segments stream) :
    ∀ t ∈ segment, t.isEnd = false := by
  induction stream using segmentInduction with
  | last stream hnone =>
      rw [segments_of_forall hnone, List.mem_singleton] at h
      exact h ▸ hnone
  | cut segment' e left hsegment he ih =>
      rw [segments_append_end hsegment he, List.mem_cons] at h
      rcases h with rfl | h
      · exact hsegment
      · exact ih h

/-- As long as there are end tokens left, a call reads the next segment. -/
theorem reads_leftAfter_of_lt {stream segment : List Token} {n : Nat}
    (h : (segments stream)[n]? = some segment) (hn : n < stream.countP isEnd) :
    Reads (leftAfter stream n) segment (leftAfter stream (n + 1)) := by
  induction stream using segmentInduction generalizing n with
  | last stream hnone =>
      rw [countP_of_forall hnone] at hn
      exact absurd hn (Nat.not_lt_zero n)
  | cut segment' e left hsegment he ih =>
      rw [segments_append_end hsegment he] at h
      rw [countP_append_end hsegment he] at hn
      rw [leftAfter_append_end hsegment he]
      cases n with
      | zero =>
          cases h
          exact reads_append_end hsegment he
      | succ n =>
          rw [leftAfter_append_end hsegment he]
          exact ih h (Nat.lt_of_succ_lt_succ hn)

/-- When all end tokens were taken, the last segment is left. -/
theorem leftAfter_countP {stream segment : List Token}
    (h : (segments stream)[stream.countP isEnd]? = some segment) :
    leftAfter stream (stream.countP isEnd) = segment := by
  induction stream using segmentInduction with
  | last stream hnone =>
      rw [segments_of_forall hnone, countP_of_forall hnone] at h
      rw [countP_of_forall hnone]
      exact Option.some.inj h
  | cut segment' e left hsegment he ih =>
      rw [segments_append_end hsegment he, countP_append_end hsegment he] at h
      rw [countP_append_end hsegment he, leftAfter_append_end hsegment he]
      exact ih h

/-- A stream can be drained as often as it has end tokens. Each call reads the next segment, which
has no end token in it, and takes no more than the segment and one end token off the stream. The
call after these finds the last segment without an end token behind it and fails. -/
theorem reads_leftAfter (stream : List Token) :
    (segments stream).length = stream.countP isEnd + 1 ∧
      ∀ n segment, (segments stream)[n]? = some segment →
        (∀ t ∈ segment, t.isEnd = false) ∧
          (n < stream.countP isEnd →
            Reads (leftAfter stream n) segment (leftAfter stream (n + 1))) ∧
          (n = stream.countP isEnd → leftAfter stream n = segment ∧ RunsOut segment) := by
  refine ⟨length_segments stream, fun n segment h => ?_⟩
  have hopen := isEnd_of_mem_segments (List.mem_of_getElem? h)
  refine ⟨hopen, reads_leftAfter_of_lt h, ?_⟩
  rintro rfl
  exact ⟨leftAfter_countP h, runsOut_of_forall hopen⟩

/-- A stream with two end tokens in a row, one later, and a token behind the last of them. -/
def interrupted : List Token :=
  [{ kind := .ident }, { kind := .endOfInput }, { kind := .endOfInput }, { kind := .error },
    { kind := .endOfInput }, { kind := .number }]

/-- The second call finds nothing between two end tokens, and the fourth call fails. -/
theorem reads_leftAfter_interrupted :
    (segments interrupted)[1]? = some [] ∧ 1 < interrupted.countP isEnd ∧
      Reads (leftAfter interrupted 1) [] (leftAfter interrupted 2) ∧
      (segments interrupted)[3]? = some [{ kind := .number }] ∧ 3 = interrupted.countP isEnd ∧
      leftAfter interrupted 3 = [{ kind := .number }] ∧ RunsOut [{ kind := .number }] := by
  have hempty : (segments interrupted)[1]? = some [] := by decide
  have hlast : (segments interrupted)[3]? = some [{ kind := .number }] := by decide
  obtain ⟨-, hcalls⟩ := reads_leftAfter interrupted
  obtain ⟨-, hreads, -⟩ := hcalls 1 [] hempty
  obtain ⟨-, -, hfails⟩ := hcalls 3 [{ kind := .number }] hlast
  exact ⟨hempty, by decide, hreads (by decide), hlast, by decide, hfails (by decide)⟩

end UnitScan.Token

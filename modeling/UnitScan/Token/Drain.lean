import UnitScan.Scan

/-!
# Draining a stream of tokens

To drain a stream is to read it up to and including its next end token. The tokens before the
end token are the answer; what follows it stays in the stream. A stream without an end token
is a failure of whatever made the stream.
-/

namespace UnitScan

/-- A stream of tokens stopped without an end token, after `collected` other tokens. -/
structure StreamFailure where
  collected : Int := 0
  /-- A description of its own, if it is not empty. -/
  detail : String := ""
  deriving DecidableEq, Repr

/-- What a failure of a stream is reported as. -/
def StreamFailure.message (f : StreamFailure) : String :=
  if f.detail.isEmpty then
    "token stream exhausted without EOF after " ++ toString f.collected ++ " token(s)"
  else f.detail

namespace Token

/-- What stands before the first end token of a stream. -/
def segment (stream : List Token) : List Token := stream.takeWhile (!·.isEnd)

/-- Read a stream up to its next end token. The second component is what stays in it. -/
def drain (stream : List Token) : Logged (Except StreamFailure (List Token)) × List Token :=
  let collected := segment stream
  match stream.dropWhile (!·.isEnd) with
  | [] =>
    (do
      Logged.note (.endedEarly collected.length)
      return .error ⟨collected.length, ""⟩, [])
  | _ :: left =>
    (do
      Logged.note (Token.collected collected)
      return .ok collected, left)

/-- Draining reads as far as the first end token, and leaves what follows it. -/
theorem drain_append_end {tokens left : List Token} {e : Token}
    (h : ∀ t ∈ tokens, t.isEnd = false) (he : e.isEnd = true) :
    drain (tokens ++ e :: left) = (⟨.ok tokens, [collected tokens]⟩, left) := by
  have hopen : ∀ t ∈ tokens, (!t.isEnd) = true := by simpa using h
  have hsegment : segment (tokens ++ e :: left) = tokens := by
    simp [segment, List.takeWhile_append_of_pos hopen, he]
  have hrest : (tokens ++ e :: left).dropWhile (!·.isEnd) = e :: left := by
    simp [List.dropWhile_append_of_pos hopen, he]
  rw [drain, hsegment, hrest]
  rfl

/-- A stream without an end token is read up, in vain. -/
theorem drain_of_forall {stream : List Token} (h : ∀ t ∈ stream, t.isEnd = false) :
    drain stream = (⟨.error { collected := stream.length }, [.endedEarly stream.length]⟩, []) := by
  have hopen : ∀ t ∈ stream, (!t.isEnd) = true := by simpa using h
  have hsegment : segment stream = stream := by
    rw [segment, ← List.append_nil stream, List.takeWhile_append_of_pos hopen]
    rfl
  have hrest : stream.dropWhile (!·.isEnd) = [] := by
    rw [← List.append_nil stream, List.dropWhile_append_of_pos hopen]
    rfl
  rw [drain, hsegment, hrest]
  rfl

end Token

end UnitScan

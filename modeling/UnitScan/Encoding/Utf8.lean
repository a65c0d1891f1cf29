import UnitScan.Encoding.SingleByte

/-!
# UTF-8

A character takes one to four bytes: a lead byte, which says how many continuation bytes
follow it, and those. Bytes that are no character are decoded as replacement characters, one
for each longest run of bytes that begins some character.

## Implementation notes

The range of the first continuation byte depends on the lead byte; this is what rules out
overlong forms, surrogates and code points that are too large.
-/

namespace UnitScan.Encoding.Utf8

/-- What a lead byte says about the bytes after it. -/
structure Lead where
  /-- How many continuation bytes follow. -/
  count : Nat
  /-- The smallest first continuation byte. -/
  low : Nat
  /-- The largest first continuation byte. -/
  high : Nat
  /-- The bits that the lead byte gives to the code point. -/
  bits : Nat
  deriving DecidableEq, Repr

/-- What a byte says as a lead byte, if it is one. -/
def lead? (b : Nat) : Option Lead :=
  if b < 0x80 then some ⟨0, 0x80, 0xBF, b⟩
  else if b < 0xC2 then none
  else if b < 0xE0 then some ⟨1, 0x80, 0xBF, b - 0xC0⟩
  else if b = 0xE0 then some ⟨2, 0xA0, 0xBF, 0⟩
  else if b = 0xED then some ⟨2, 0x80, 0x9F, 0xD⟩
  else if b < 0xF0 then some ⟨2, 0x80, 0xBF, b - 0xE0⟩
  else if b = 0xF0 then some ⟨3, 0x90, 0xBF, 0⟩
  else if b < 0xF4 then some ⟨3, 0x80, 0xBF, b - 0xF0⟩
  else if b = 0xF4 then some ⟨3, 0x80, 0x8F, 4⟩
  else none

/-- Read `count` continuation bytes, the first of which lies between `low` and `high`. The
code point is missing if some byte does not fit, and that byte is left. -/
def continued : (count low high bits : Nat) → List UInt8 → Option Nat × List UInt8
  | 0, _, _, bits, bytes => (some bits, bytes)
  | _ + 1, _, _, _, [] => (none, [])
  | count + 1, low, high, bits, b :: rest =>
    if low ≤ b.toNat ∧ b.toNat ≤ high then
      continued count 0x80 0xBF (bits * 64 + b.toNat % 64) rest
    else (none, b :: rest)

theorem length_continued_le (count low high bits : Nat) (bytes : List UInt8) :
    (continued count low high bits bytes).2.length ≤ bytes.length := by
  fun_induction continued count low high bits bytes with
  | case1 => exact Nat.le_refl _
  | case2 => exact Nat.le_refl _
  | case3 _ _ _ _ _ _ _ ih => exact Nat.le_succ_of_le ih
  | case4 => exact Nat.le_refl _

/-- The first character of a text that begins with a byte, and the bytes after it. -/
def next (b : UInt8) (rest : List UInt8) : Char × List UInt8 :=
  match lead? b.toNat with
  | none => (replacement, rest)
  | some lead =>
    let (code, rest) := continued lead.count lead.low lead.high lead.bits rest
    (code.elim replacement Char.ofNat, rest)

theorem length_next_le (b : UInt8) (rest : List UInt8) :
    (next b rest).2.length ≤ rest.length := by
  unfold next
  split
  · exact Nat.le_refl _
  · exact length_continued_le ..

/-- The characters of a text in UTF-8. -/
def decode : List UInt8 → List Char
  | [] => []
  | b :: rest =>
    let step := next b rest
    step.1 :: decode step.2
termination_by bytes => bytes.length
decreasing_by exact Nat.lt_succ_of_le (length_next_le b rest)

/-- The bytes that mark a text as UTF-8. -/
def signature : List UInt8 := [0xEF, 0xBB, 0xBF]

/-- The characters of a text in UTF-8 that may begin with the signature. -/
def decodeSigned (bytes : List UInt8) : List Char :=
  if signature.isPrefixOf bytes then decode (bytes.drop signature.length) else decode bytes

end UnitScan.Encoding.Utf8

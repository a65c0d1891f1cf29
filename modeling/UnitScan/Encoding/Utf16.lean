import UnitScan.Encoding.SingleByte

/-!
# UTF-16

A character takes one unit of two bytes, or a pair of surrogate units. A lone surrogate is
decoded as a replacement character, and so is what is left at the end of the bytes when it is
too short for the unit or the pair that it begins.
-/

namespace UnitScan.Encoding.Utf16

/-- Which byte of a unit comes first. -/
inductive Order
  | littleEndian
  | bigEndian
  deriving DecidableEq, Repr

/-- The unit of two bytes. -/
def Order.unit : Order → UInt8 → UInt8 → Nat
  | littleEndian, a, b => a.toNat + 256 * b.toNat
  | bigEndian, a, b => 256 * a.toNat + b.toNat

/-- Whether a unit is the first one of a pair. -/
def isHigh (u : Nat) : Bool := 0xD800 ≤ u && u < 0xDC00

/-- Whether a unit is the second one of a pair. -/
def isLow (u : Nat) : Bool := 0xDC00 ≤ u && u < 0xE000

/-- The character of a pair of surrogate units. -/
def pairChar (high low : Nat) : Char :=
  Char.ofNat (0x10000 + (high - 0xD800) * 0x400 + (low - 0xDC00))

/-- The first character of a text that begins with a unit, and the bytes after it. A high
surrogate that no low surrogate follows is a character of its own, unless fewer than two bytes
follow it, which then belong to it. -/
def next (order : Order) (u : Nat) (rest : List UInt8) : Char × List UInt8 :=
  if isHigh u then
    match rest with
    | c :: d :: later =>
      if isLow (order.unit c d) then (pairChar u (order.unit c d), later)
      else (replacement, rest)
    | _ => (replacement, [])
  else if isLow u then (replacement, rest)
  else (Char.ofNat u, rest)

theorem length_next_le (order : Order) (u : Nat) (rest : List UInt8) :
    (next order u rest).2.length ≤ rest.length := by
  unfold next
  split
  · split
    · split
      · simp only [List.length_cons]
        omega
      · exact Nat.le_refl _
    · exact Nat.zero_le _
  · split <;> exact Nat.le_refl _

/-- The characters of a text in UTF-16 of a known byte order. -/
def decode (order : Order) : List UInt8 → List Char
  | [] => []
  | [_] => [replacement]
  | a :: b :: rest =>
    let step := next order (order.unit a b) rest
    step.1 :: decode order step.2
termination_by bytes => bytes.length
decreasing_by
  have := length_next_le order (order.unit a b) rest
  simp only [List.length_cons]
  omega

/-- The characters of a text in UTF-16 that may begin with a byte order mark. Without one the
order is little-endian. -/
def decodeMarked : List UInt8 → List Char
  | 0xFF :: 0xFE :: rest => decode .littleEndian rest
  | 0xFE :: 0xFF :: rest => decode .bigEndian rest
  | bytes => decode .littleEndian bytes

end UnitScan.Encoding.Utf16

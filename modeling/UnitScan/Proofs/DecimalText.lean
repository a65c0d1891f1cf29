import Mathlib.Logic.Function.Basic

/-!
# Decimal texts

The decimal text of an integer has digits in it, and a minus in front if the integer is negative.
It determines the integer.
-/

namespace UnitScan

/-- The digits of a number are nothing but digits. -/
theorem isDigit_of_mem_toString (n : Nat) : ∀ c ∈ (toString n).toList, c.isDigit = true := by
  intro c hc
  rw [Nat.toString_eq_repr, Nat.toList_repr] at hc
  exact Nat.isDigit_of_mem_toDigits (by decide) (by decide) hc

theorem notMem_toList_toString {c : Char} (h : c.isDigit = false) (n : Nat) :
    c ∉ (toString n).toList := by
  intro hmem
  rw [isDigit_of_mem_toString n c hmem] at h
  cases h

/-- A number is read back from its digits. -/
theorem ofDigitChars_toString (n : Nat) : Nat.ofDigitChars 10 (toString n).toList 0 = n := by
  rw [Nat.toString_eq_repr, Nat.toList_repr]
  exact Nat.ofDigitChars_toDigits (by decide) (by decide)

theorem toList_toString_negSucc (n : Nat) :
    (toString (Int.negSucc n)).toList = '-' :: (toString (n + 1)).toList := String.toList_append

/-- Whether a character may stand in the decimal text of an integer. -/
def inInteger (c : Char) : Bool := c.isDigit || c = '-'

theorem inInteger_of_mem_toString (n : Int) :
    ∀ c ∈ (toString n).toList, inInteger c = true := by
  intro c hc
  cases n with
  | ofNat n =>
      rw [inInteger, isDigit_of_mem_toString n c hc, Bool.true_or]
  | negSucc n =>
      rw [toList_toString_negSucc, List.mem_cons] at hc
      rcases hc with rfl | hc
      · rfl
      · rw [inInteger, isDigit_of_mem_toString (n + 1) c hc, Bool.true_or]

/-- The integer that a decimal text stands for. -/
def integerValue : List Char → Int
  | [] => 0
  | c :: rest =>
    if c = '-' then -(Nat.ofDigitChars 10 rest 0 : Int) else Nat.ofDigitChars 10 (c :: rest) 0

theorem integerValue_toString (n : Int) : integerValue (toString n).toList = n := by
  cases n with
  | ofNat n =>
      have htext : toString (Int.ofNat n) = toString n := rfl
      have hvalue := ofDigitChars_toString n
      have hminus := notMem_toList_toString (c := '-') (by decide) n
      rw [htext]
      cases hchars : (toString n).toList with
      | nil =>
          rw [hchars] at hvalue
          rw [← hvalue]
          rfl
      | cons c rest =>
          rw [hchars] at hvalue hminus
          rw [integerValue, if_neg (List.ne_of_not_mem_cons hminus).symm, hvalue]
          rfl
  | negSucc n =>
      rw [toList_toString_negSucc, integerValue, if_pos rfl, ofDigitChars_toString]
      rfl

/-- Different integers have different texts. -/
theorem toString_int_injective : Function.Injective (toString : Int → String) := by
  intro m n h
  rw [← integerValue_toString m, h, integerValue_toString]

end UnitScan

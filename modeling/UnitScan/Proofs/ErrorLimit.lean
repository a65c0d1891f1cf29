import UnitScan.Command.Request
import UnitScan.Text.Written
import Mathlib.Algebra.Group.Nat.Defs

/-!
# The error limit in effect

The limit has three sources: the default, the environment and the command line. Each of them is
checked where it is read, so whatever a scan is asked for, at least one error is reported. And since
no integer is read that has more digits than may be written, a refusal can always name the limit.

The first section takes successful computations apart: what a sequence of two has done, and what a
fold keeps.
-/

namespace UnitScan

/-! ### Successful computations -/

section Successes

variable {σ α β ε : Type}

theorem exists_of_bind_eq_ok {x : Except ε α} {f : α → Except ε β} {b : β}
    (h : (x >>= f) = .ok b) : ∃ a, x = .ok a ∧ f a = .ok b := by
  cases x with
  | error e => cases h
  | ok a => exact ⟨a, rfl, h⟩

theorem exists_of_map_eq_ok {x : Except ε α} {f : α → β} {b : β} (h : x.map f = .ok b) :
    ∃ a, x = .ok a ∧ f a = b := by
  cases x with
  | error e => cases h
  | ok a => exact ⟨a, rfl, Except.ok.inj h⟩

/-- What every successful step of a fold keeps, a successful fold keeps. -/
theorem foldlM_keeps {f : σ → α → Except ε σ} (P : σ → Prop)
    (hstep : ∀ s a s', P s → f s a = .ok s' → P s') {l : List α} {s last : σ} (hs : P s)
    (h : l.foldlM f s = .ok last) : P last := by
  induction l generalizing s with
  | nil =>
      cases h
      exact hs
  | cons a l ih =>
      rw [List.foldlM_cons] at h
      obtain ⟨middle, hfirst, hlater⟩ := exists_of_bind_eq_ok h
      exact ih (hstep s a middle hs hfirst) hlater

end Successes

/-! ### Integers that are read -/

namespace Text

theorem lt_of_decimalValue? {c : Char} {digit : Nat} (h : Character.decimalValue? c = some digit) :
    digit < 10 := by
  obtain ⟨r, -, rfl⟩ := Option.map_eq_some_iff.mp h
  exact Nat.mod_lt _ (by decide)

/-- Reading one more digit keeps the digits in their range. -/
theorem forall_lt_of_cons {c : Char} {rest : List Char} {digits : List Nat}
    (hlater : ∀ later, laterDigits? rest = some later → ∀ digit ∈ later, digit < 10)
    (h : (do return (← Character.decimalValue? c) :: (← laterDigits? rest)) = some digits) :
    ∀ digit ∈ digits, digit < 10 := by
  obtain ⟨digit, hdigit, htail⟩ := Option.bind_eq_some_iff.mp h
  obtain ⟨later, hrest, hdigits⟩ := Option.bind_eq_some_iff.mp htail
  cases hdigits
  exact List.forall_mem_cons.mpr ⟨lt_of_decimalValue? hdigit, hlater later hrest⟩

theorem forall_lt_of_laterDigits? {text : List Char} {digits : List Nat}
    (h : laterDigits? text = some digits) : ∀ digit ∈ digits, digit < 10 := by
  fun_induction laterDigits? text generalizing digits with
  | case1 =>
      cases h
      exact List.forall_mem_nil _
  | case2 => cases h
  | case3 d rest ih => exact forall_lt_of_cons (fun _ => ih) h
  | case4 c rest _ ih => exact forall_lt_of_cons (fun _ => ih) h

theorem forall_lt_of_digits? {text : List Char} {digits : List Nat}
    (h : digits? text = some digits) : ∀ digit ∈ digits, digit < 10 := by
  cases text with
  | nil => cases h
  | cons c rest => exact forall_lt_of_cons (fun _ => forall_lt_of_laterDigits?) h

/-- A number is less than the power of ten with as many zeros as it has digits. -/
theorem foldl_lt {digits : List Nat} (h : ∀ digit ∈ digits, digit < 10) (value : Nat) :
    digits.foldl (fun value digit => 10 * value + digit) value <
      10 ^ digits.length * (value + 1) := by
  induction digits generalizing value with
  | nil => simp
  | cons digit digits ih =>
      obtain ⟨hdigit, hlater⟩ := List.forall_mem_cons.mp h
      calc
        (digit :: digits).foldl (fun value digit => 10 * value + digit) value <
            10 ^ digits.length * (10 * value + digit + 1) := ih hlater _
        _ ≤ 10 ^ digits.length * (10 * (value + 1)) :=
          Nat.mul_le_mul_left _ (by omega)
        _ = 10 ^ (digit :: digits).length * (value + 1) := by
          rw [List.length_cons, Nat.pow_succ, Nat.mul_assoc]

theorem foldl_lt_pow {digits : List Nat} (h : ∀ digit ∈ digits, digit < 10) {count : Nat}
    (hcount : digits.length ≤ count) :
    digits.foldl (fun value digit => 10 * value + digit) 0 < Nat.pow 10 count :=
  calc
    digits.foldl (fun value digit => 10 * value + digit) 0 < 10 ^ digits.length * (0 + 1) :=
      foldl_lt h 0
    _ = 10 ^ digits.length := Nat.mul_one _
    _ ≤ 10 ^ count := Nat.pow_le_pow_right (by decide) hcount
    _ = Nat.pow 10 count := rfl

theorem natural?_lt {text : List Char} {n : Nat} (h : natural? text = some n) :
    n < numberLimit := by
  obtain ⟨digits, hdigits, hvalue⟩ := Option.bind_eq_some_iff.mp h
  split at hvalue
  · next hlength =>
    cases hvalue
    unfold numberLimit
    exact foldl_lt_pow (forall_lt_of_digits? hdigits) hlength
  · cases hvalue

/-- An integer that can be read can be written. -/
theorem writable_of_integer? {text : List Char} {n : Int} (h : integer? text = some n) :
    Writable n := by
  unfold integer? at h
  split at h
  all_goals
    obtain ⟨value, hvalue, rfl⟩ := Option.map_eq_some_iff.mp h
    obtain ⟨natural, hnatural, hcast⟩ := Option.bind_eq_some_iff.mp hvalue
    cases hcast
    simpa [Writable] using natural?_lt hnatural

end Text

/-- An error limit that can be in effect: at least one error is reported, and what lies beyond the
limit can be refused by name. -/
structure IsErrorLimit (limit : Int) : Prop where
  positive : 1 ≤ limit
  writable : Text.Writable limit

/-! ### The environment -/

namespace Configuration

theorem isErrorLimit_of_errorLimit? {text : String} {limit : Int}
    (h : errorLimit? text = some limit) : IsErrorLimit limit := by
  obtain ⟨hinteger, hpositive⟩ := Option.filter_eq_some_iff.mp h
  exact ⟨of_decide_eq_true hpositive, Text.writable_of_integer? hinteger⟩

theorem isErrorLimit_readErrorLimit (env : Environment) {default : Int}
    (h : IsErrorLimit default) : IsErrorLimit (readErrorLimit env default).value := by
  unfold readErrorLimit
  split
  · exact h
  · split
    · next hlimit => exact isErrorLimit_of_errorLimit? hlimit
    · exact h

/-- An error limit that is not a positive integer is not taken from the environment. -/
theorem isErrorLimit_ofEnvironment (env : Environment) :
    IsErrorLimit (ofEnvironment env).value.errorLimit :=
  isErrorLimit_readErrorLimit env ⟨by decide, by decide +kernel⟩

end Configuration

/-! ### The command line -/

namespace Command

/-- The error limit among the choices for a scan, if there is one, can be in effect. -/
def ScanOptions.LimitsErrors (s : ScanOptions) : Prop :=
  ∀ limit, s.errorLimit = some limit → IsErrorLimit limit

namespace Request

theorem isErrorLimit_of_readLimit {value : String} {limit : Int}
    (h : readLimit value = .ok limit) : IsErrorLimit limit := by
  unfold readLimit at h
  split at h
  · cases h
  · next hinteger =>
    split at h
    · next hle =>
      cases h
      exact ⟨hle, Text.writable_of_integer? hinteger⟩
    · cases h

theorem limitsErrors_applyOption {line : CommandLine} {s s' : ScanOptions} {option : OptionName}
    (hs : s.LimitsErrors) (h : applyOption line s option = .ok s') : s'.LimitsErrors := by
  unfold applyOption at h
  split at h
  · obtain ⟨format, -, rfl⟩ := exists_of_map_eq_ok h
    exact hs
  · obtain ⟨limit, hlimit, rfl⟩ := exists_of_map_eq_ok h
    rintro _ ⟨⟩
    exact isErrorLimit_of_readLimit hlimit
  -- The other options leave the limit as it is.
  all_goals
    cases h
    exact hs

theorem limitsErrors_applyArguments {isDirectory : String → Bool} {arguments : List String}
    {s s' : ScanOptions} (hs : s.LimitsErrors)
    (h : applyArguments isDirectory arguments s = .ok s') : s'.LimitsErrors := by
  unfold applyArguments at h
  split at h
  · cases h
    exact hs
  · split at h
    · cases h
    · split at h
      · cases h
        exact hs
      · cases h

theorem ofUses?_ne_scan (uses : List OptionUse) (s : ScanOptions) :
    ofUses? uses ≠ some (.scan s) := by
  induction uses with
  | nil => simp [ofUses?]
  | cons use later ih =>
      unfold ofUses?
      split
      · simp
      · simp
      · exact ih

/-- A command line never asks for a scan with a limit that cannot be in effect. -/
theorem limitsErrors_of_ofArgs {isDirectory : String → Bool} {args : List String}
    {s : ScanOptions} (h : ofArgs isDirectory args = .ok (.scan s)) : s.LimitsErrors := by
  obtain ⟨line, -, hline⟩ := exists_of_bind_eq_ok h
  unfold ofCommandLine at hline
  split at hline
  · next request huses =>
    cases hline
    exact absurd huses (ofUses?_ne_scan line.uses s)
  · obtain ⟨chosen, hoptions, hscan⟩ := exists_of_bind_eq_ok hline
    obtain ⟨named, harguments, heq⟩ := exists_of_bind_eq_ok hscan
    cases heq
    have hnone : ScanOptions.LimitsErrors {} := by
      rintro _ ⟨⟩
    have hchosen := foldlM_keeps ScanOptions.LimitsErrors
      (fun _ _ _ hs hstep => limitsErrors_applyOption hs hstep) hnone hoptions
    exact limitsErrors_applyArguments hchosen harguments

end Request

/-- Whatever a scan is asked for, and in whatever environment, at least one error is reported, and
the limit can be written. -/
theorem ScanOptions.isErrorLimit {isDirectory : String → Bool} {args : List String}
    {s : ScanOptions} (h : Request.ofArgs isDirectory args = .ok (.scan s)) (env : Environment) :
    IsErrorLimit (s.configure (Configuration.ofEnvironment env).value).errorLimit := by
  have hlimits := Request.limitsErrors_of_ofArgs h
  cases hlimit : s.errorLimit with
  | none =>
      rw [ScanOptions.configure, hlimit, Option.getD_none]
      exact Configuration.isErrorLimit_ofEnvironment env
  | some limit =>
      rw [ScanOptions.configure, hlimit, Option.getD_some]
      exact hlimits limit hlimit

end Command

end UnitScan

import UnitScan.TokenStream
import UnitScan.Proofs.LexemeGrammar
import Mathlib.Data.List.Pairwise

/-!
# The order of the tests does not matter

Four tests on its first character decide what kind of lexeme stands at the front of a text. The
reader makes them one after the other and takes the first that the character passes. Under a policy
a character passes at most one of them, so a reader that makes them in any other order takes the
same one. Then it answers every request in the same way, and a scan finds the same tokens at the
same positions and notes the same events.

## Implementation notes

An order is a list of tests. A reader in an order is defined for every list, also for one that
leaves a test out; only the results are about the orders of all four.
-/

namespace UnitScan

/-! ### First hits -/

section FirstHit

variable {α : Type} {property : α → Bool} {l l' : List α}

/-- Of members that exclude each other at most one has a property. -/
theorem countP_le_one (h : l.Pairwise fun a b => ¬(property a = true ∧ property b = true)) :
    l.countP property ≤ 1 := by
  rw [List.countP_eq_length_filter]
  cases hfilter : l.filter property with
  | nil => exact Nat.zero_le 1
  | cons a others =>
      cases others with
      | nil => exact Nat.le_refl 1
      | cons b others =>
          have hmem : ∀ x ∈ a :: b :: others, property x = true := by
            intro x hx
            rw [← hfilter] at hx
            exact (List.mem_filter.mp hx).2
          have hexclude := h.filter property
          rw [hfilter] at hexclude
          have hab := List.rel_of_pairwise_cons hexclude List.mem_cons_self
          exact absurd ⟨hmem a (by simp), hmem b (by simp)⟩ hab

/-- What is found first does not depend on the order of the list if there is only one thing to
find. -/
theorem find?_eq_of_unique (hmem : ∀ a, a ∈ l ↔ a ∈ l')
    (hunique : ∀ a ∈ l, ∀ b ∈ l, property a = true → property b = true → a = b) :
    l.find? property = l'.find? property := by
  cases hfind : l.find? property with
  | none =>
      symm
      rw [List.find?_eq_none] at hfind ⊢
      intro a ha
      exact hfind a ((hmem a).mpr ha)
  | some a =>
      have ha := List.mem_of_find?_eq_some hfind
      have hproperty := List.find?_some hfind
      cases hfind' : l'.find? property with
      | none => exact absurd hproperty (List.find?_eq_none.mp hfind' a ((hmem a).mp ha))
      | some b =>
          have hb := (hmem b).mpr (List.mem_of_find?_eq_some hfind')
          exact congrArg some (hunique a ha b hb hproperty (List.find?_some hfind'))

end FirstHit

/-! ### The tests -/

namespace Lexeme

/-- What the first character of a lexeme is tested for. -/
inductive Test
  | newline
  | ident
  | digit
  | operator
  deriving DecidableEq, Repr

namespace Test

/-- All tests, in the order in which the reader makes them. -/
def all : List Test := [newline, ident, digit, operator]

/-- Whether a character passes a test. -/
def passes (p : Policy) (c : Char) : Test → Bool
  | newline => c = '\n'
  | ident => p.startsIdent c
  | digit => c.isDigit
  | operator => Operator.isChar c

/-- The lexeme that starts with a character which has passed a test, and what follows the
lexeme. -/
def read (p : Policy) (c : Char) (rest : List Char) : Test → Lexeme × List Char
  | newline => (.newline, rest)
  | ident => (.ident (c :: rest.takeWhile p.continuesIdent), rest.dropWhile p.continuesIdent)
  | digit => (.number (Numeral.read (c :: rest)).1, (Numeral.read (c :: rest)).2)
  | operator => ((Operator.ofChar? c).elim (stray c) .operator, rest)

theorem mem_all (t : Test) : t ∈ all := by
  cases t <;> decide

theorem isChar_of_isDigit {c : Char} (h : c.isDigit = true) : Operator.isChar c = false := by
  rw [Operator.isChar, Option.isSome_eq_false_iff, Option.isNone_iff_eq_none]
  cases hop : Operator.ofChar? c with
  | none => rfl
  | some o =>
      rw [← Operator.char_of_ofChar? hop, o.isDigit_char] at h
      cases h

theorem startsIdent_of_isChar (p : Policy) {c : Char} (h : Operator.isChar c = true) :
    p.startsIdent c = false := by
  obtain ⟨o, ho⟩ := Option.isSome_iff_exists.mp h
  rw [← Operator.char_of_ofChar? ho]
  exact p.startsIdent_operator o

/-- No character passes two tests. -/
theorem pairwise_exclude (p : Policy) (c : Char) :
    all.Pairwise fun t u => ¬(t.passes p c = true ∧ u.passes p c = true) := by
  have hnewline : ∀ t ∈ [ident, digit, operator],
      ¬(newline.passes p c = true ∧ t.passes p c = true) := by
    rintro t ht ⟨hc, hpasses⟩
    obtain rfl : c = '\n' := of_decide_eq_true hc
    simp only [List.mem_cons, List.not_mem_nil, or_false] at ht
    rcases ht with rfl | rfl | rfl
    · rw [passes, p.startsIdent_newline] at hpasses
      cases hpasses
    · cases hpasses
    · have hnot : Operator.isChar '\n' = false := by decide
      rw [passes, hnot] at hpasses
      cases hpasses
  have hident : ∀ t ∈ [digit, operator],
      ¬(ident.passes p c = true ∧ t.passes p c = true) := by
    rintro t ht ⟨hc, hpasses⟩
    have hstart : p.startsIdent c = true := hc
    simp only [List.mem_cons, List.not_mem_nil, or_false] at ht
    rcases ht with rfl | rfl
    · rw [p.startsIdent_of_isDigit hpasses] at hstart
      cases hstart
    · rw [startsIdent_of_isChar p hpasses] at hstart
      cases hstart
  have hdigit : ¬(digit.passes p c = true ∧ operator.passes p c = true) := by
    rintro ⟨hc, hpasses⟩
    have hchar : Operator.isChar c = true := hpasses
    rw [isChar_of_isDigit hc] at hchar
    cases hchar
  simp only [all, List.pairwise_cons]
  exact ⟨hnewline, hident, by simpa using hdigit, by simp, List.Pairwise.nil⟩

/-- Two tests that one character passes are the same test. -/
theorem eq_of_passes {p : Policy} {c : Char} {t u : Test} (ht : t.passes p c = true)
    (hu : u.passes p c = true) : t = u := by
  by_contra hne
  have hsymm : Std.Symm fun t u : Test => ¬(t.passes p c = true ∧ u.passes p c = true) :=
    ⟨fun _ _ h hboth => h hboth.symm⟩
  exact (pairwise_exclude p c).forall (mem_all t) (mem_all u) hne ⟨ht, hu⟩

end Test

/-! ### Reading in an order -/

/-- The lexeme that starts with a character, when the tests are made in a given order, and what
follows the lexeme. -/
def readInOrder (order : List Test) (p : Policy) (c : Char) (rest : List Char) :
    Lexeme × List Char :=
  match order.find? (Test.passes p c) with
  | some test => test.read p c rest
  | none => (stray c, rest)

/-- The reader makes the tests in the order of `Test.all`. -/
theorem readInOrder_all (p : Policy) (c : Char) (rest : List Char) :
    readInOrder Test.all p c rest = read p c rest := by
  by_cases hnewline : c = '\n'
  · simp [readInOrder, Test.all, Test.passes, Test.read, read, hnewline]
  by_cases hident : p.startsIdent c = true
  · simp [readInOrder, Test.all, Test.passes, Test.read, read, hnewline, hident]
  by_cases hdigit : c.isDigit = true
  · simp [readInOrder, Test.all, Test.passes, Test.read, read, hnewline, hident, hdigit]
  cases hop : Operator.ofChar? c <;>
    simp [readInOrder, Test.all, Test.passes, Test.read, read, hnewline, hident, hdigit,
      Operator.isChar, hop]

/-- A reader that makes all tests, in whatever order, is the reader. -/
theorem readInOrder_eq_read {order : List Test} (h : order.Perm Test.all) (p : Policy) (c : Char)
    (rest : List Char) : readInOrder order p c rest = read p c rest := by
  have hfind : order.find? (Test.passes p c) = Test.all.find? (Test.passes p c) :=
    find?_eq_of_unique (fun _ => h.mem_iff) fun _ _ _ _ => Test.eq_of_passes
  rw [← readInOrder_all, readInOrder, readInOrder, hfind]

/-- In every order a lexeme has at least one character. -/
theorem length_readInOrder_le (order : List Test) (p : Policy) (c : Char) (rest : List Char) :
    (readInOrder order p c rest).2.length ≤ rest.length := by
  unfold readInOrder
  split
  · next test hfind =>
    have hpasses := List.find?_some hfind
    cases test with
    | newline => exact Nat.le_refl _
    | ident => exact (List.dropWhile_sublist _).length_le
    | digit =>
        have hread := length_read_le p c rest
        rwa [read_of_isDigit hpasses] at hread
    | operator => exact Nat.le_refl _
  · exact Nat.le_refl _

end Lexeme

/-! ### Scanning in an order -/

/-- The first step of a scan that makes the tests in a given order. -/
def Reading.nextInOrder? (order : List Lexeme.Test) (p : Policy) (text : List Char) :
    Option Reading :=
  match Gap.split p text with
  | (_, []) => none
  | (gap, c :: rest) =>
    some ⟨gap, (Lexeme.readInOrder order p c rest).1, (Lexeme.readInOrder order p c rest).2⟩

theorem Reading.length_nextInOrder?_lt {order : List Lexeme.Test} {p : Policy} {text : List Char}
    {r : Reading} (h : nextInOrder? order p text = some r) : r.rest.length < text.length := by
  unfold nextInOrder? at h
  split at h
  · cases h
  · next gap c rest hsplit =>
    cases h
    have hread := Lexeme.length_readInOrder_le order p c rest
    have happend := congrArg List.length (Gap.split_append p text)
    rw [hsplit, List.length_append, List.length_cons] at happend
    dsimp only
    omega

/-- The next token at a cursor when the tests are made in a given order, and the cursor behind
it. -/
def Cursor.nextTokenInOrder (order : List Lexeme.Test) (c : Cursor) (p : Policy) :
    Token × Cursor :=
  match Reading.nextInOrder? order p c.rest with
  | none =>
    let last := c.skip c.rest.length
    (.endAt last.position, last)
  | some r =>
    let start := c.skip r.gap.length
    (r.lexeme.token start.position, start.skip r.lexeme.spelling.length)

/-- The tokens of a text that starts at a position, when the tests are made in a given order, with
the log of the scan. -/
def scanInOrder (order : List Lexeme.Test) (p : Policy) (start : Position) (text : List Char) :
    Logged (List Token) :=
  match _h : Reading.nextInOrder? order p text with
  | none => pure []
  | some r => do
    r.lexeme.note (r.lexemeStart start)
    let later ← scanInOrder order p (r.lexemeEnd start) r.rest
    return r.lexeme.token (r.lexemeStart start) :: later
termination_by text.length
decreasing_by exact Reading.length_nextInOrder?_lt _h

/-- The tokens of a text when the tests are made in a given order, with the log of the scan. -/
def tokenizeInOrder (order : List Lexeme.Test) (p : Policy) (text : List Char) :
    Logged (List Token) := do
  let tokens ← scanInOrder order p .start text
  Logged.note (Token.collected tokens)
  return tokens

section Order

variable {order : List Lexeme.Test} (h : order.Perm Lexeme.Test.all) (p : Policy)

include h

theorem Reading.nextInOrder?_eq_next? (text : List Char) :
    nextInOrder? order p text = next? p text := by
  rw [nextInOrder?, next?]
  rcases Gap.split p text with ⟨gap, _ | ⟨c, rest⟩⟩
  · rfl
  · simp only [Lexeme.readInOrder_eq_read h]

theorem Cursor.nextTokenInOrder_eq_nextToken (c : Cursor) :
    c.nextTokenInOrder order p = c.nextToken p := by
  have hnext := Reading.nextInOrder?_eq_next? h p c.rest
  cases hread : Reading.next? p c.rest with
  | none =>
      rw [hread] at hnext
      simp only [nextTokenInOrder, nextToken, hnext, hread]
  | some r =>
      rw [hread] at hnext
      simp only [nextTokenInOrder, nextToken, hnext, hread]

theorem scanInOrder_eq_scanFrom (start : Position) (text : List Char) :
    scanInOrder order p start text = scanFrom p start text := by
  fun_induction scanInOrder order p start text with
  | case1 start text hnone =>
      rw [Reading.nextInOrder?_eq_next? h] at hnone
      rw [scanFrom_of_next?_eq_none hnone]
  | case2 start text r hsome ih =>
      rw [Reading.nextInOrder?_eq_next? h] at hsome
      rw [scanFrom_of_next?_eq_some hsome, ih]

end Order

/-- Under every policy a character passes at most one of the four tests. So in whatever order all
of them are made, every request at every cursor has the same answer and leaves the cursor at the
same place, and the scan of every text gives the same tokens at the same positions. -/
theorem tokenizeInOrder_eq_tokenize (p : Policy) :
    (∀ c, Lexeme.Test.all.countP (Lexeme.Test.passes p c) ≤ 1) ∧
      ∀ order : List Lexeme.Test, order.Perm Lexeme.Test.all →
        (∀ c : Cursor, c.nextTokenInOrder order p = c.nextToken p) ∧
          ∀ text, tokenizeInOrder order p text = tokenize p text := by
  refine ⟨fun c => countP_le_one (Lexeme.Test.pairwise_exclude p c), fun order h => ⟨?_, ?_⟩⟩
  · exact Cursor.nextTokenInOrder_eq_nextToken h p
  · intro text
    rw [tokenizeInOrder, scanInOrder_eq_scanFrom h, tokenize]

/-- The tests in the opposite order, on a text with a lexeme of each kind. -/
theorem tokenizeInOrder_eq_tokenize_reverse :
    Lexeme.Test.all.reverse.Perm Lexeme.Test.all ∧
      tokenizeInOrder Lexeme.Test.all.reverse Policy.standard "m2 2.5e3/s @\n".toList =
        tokenize Policy.standard "m2 2.5e3/s @\n".toList := by
  have hperm : Lexeme.Test.all.reverse.Perm Lexeme.Test.all := List.reverse_perm _
  exact ⟨hperm, ((tokenizeInOrder_eq_tokenize Policy.standard).2 _ hperm).2 _⟩

end UnitScan

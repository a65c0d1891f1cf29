import UnitScan.Proofs.Readings

/-!
# The parts of a text

A scan passes a text part by part, and each part is a piece of a gap or a lexeme. The parts of a
text make up the text, and the lexemes among them are the lexemes of the text.

## Implementation notes

The steps of a scan keep a gap as one run of characters. The parts take it piece by piece, so they
also tell comments from continuations and where on its line each of them stands.
-/

namespace UnitScan

/-- What a scan passes at once: a piece of a gap, or a lexeme. -/
inductive Part
  | piece (chars : List Char)
  | lexeme (l : Lexeme)
  deriving DecidableEq, Repr

namespace Part

/-- The characters of a part. -/
def spelling : Part → List Char
  | piece chars => chars
  | lexeme l => l.spelling

/-- The lexeme that a part is, unless it is a piece of a gap. -/
def lexeme? : Part → Option Lexeme
  | piece _ => none
  | lexeme l => some l

/-- The characters of several parts. -/
def spellAll (parts : List Part) : List Char := parts.flatMap spelling

@[simp] theorem spellAll_nil : spellAll [] = [] := rfl

@[simp] theorem spellAll_cons (part : Part) (parts : List Part) :
    spellAll (part :: parts) = part.spelling ++ spellAll parts := rfl

@[simp] theorem spellAll_append (parts parts' : List Part) :
    spellAll (parts ++ parts') = spellAll parts ++ spellAll parts' :=
  List.flatMap_append

/-- The first part of a text, and what follows it. -/
def next? (p : Policy) (text : List Char) : Option (Part × List Char) :=
  match Gap.piece? p text, text with
  | some (chars, rest), _ => some (piece chars, rest)
  | none, c :: tail => some (lexeme (Lexeme.read p c tail).1, (Lexeme.read p c tail).2)
  | none, [] => none

section Next

variable {p : Policy} {text rest : List Char} {part : Part}

theorem next?_of_piece {chars : List Char} (h : Gap.Piece p chars rest) :
    next? p (chars ++ rest) = some (piece chars, rest) := by
  simp only [next?, Gap.piece?_of_piece h]

theorem next?_of_exhausted {c : Char} {tail : List Char} {l : Lexeme}
    (h : Gap.Exhausted p (c :: tail)) (hread : Lexeme.read p c tail = (l, rest)) :
    next? p (c :: tail) = some (lexeme l, rest) := by
  simp only [next?, Gap.piece?_eq_none_iff.mpr h, hread]

/-- The first part of a text is the first piece of its gap, or a lexeme where no gap begins. -/
theorem next?_cases (h : next? p text = some (part, rest)) :
    (∃ chars, part = piece chars ∧ text = chars ++ rest ∧ Gap.Piece p chars rest) ∨
      ∃ c tail l, part = lexeme l ∧ text = c :: tail ∧ Gap.Exhausted p (c :: tail) ∧
        Lexeme.read p c tail = (l, rest) := by
  unfold next? at h
  split at h
  · next chars rest hpiece =>
    cases h
    left
    exact ⟨chars, rfl, Gap.piece?_eq_some_iff.mp hpiece⟩
  · next c tail hnone =>
    cases h
    right
    exact ⟨c, tail, _, rfl, rfl, Gap.piece?_eq_none_iff.mp hnone, rfl⟩
  · cases h

theorem next?_eq_none_iff : next? p text = none ↔ text = [] := by
  unfold next?
  split
  · next chars rest hpiece =>
    simp only [reduceCtorEq, false_iff]
    rintro rfl
    cases hpiece
  · simp
  · simp

/-- A part and what follows it make up the text. -/
theorem next?_append (h : next? p text = some (part, rest)) : part.spelling ++ rest = text := by
  rcases next?_cases h with ⟨chars, rfl, rfl, -⟩ | ⟨c, tail, l, rfl, rfl, -, hread⟩
  · rfl
  · have happend := Lexeme.read_append p c tail
    rw [hread] at happend
    exact happend

theorem spelling_next?_ne_nil (h : next? p text = some (part, rest)) : part.spelling ≠ [] := by
  rcases next?_cases h with ⟨chars, rfl, rfl, hpiece⟩ | ⟨c, tail, l, rfl, rfl, -, hread⟩
  · exact Gap.piece?_ne_nil (Gap.piece?_of_piece hpiece)
  · have hne := Lexeme.spelling_read_ne_nil p c tail
    rw [hread] at hne
    exact hne

theorem length_next?_lt (h : next? p text = some (part, rest)) : rest.length < text.length := by
  have hpos := List.length_pos_iff.mpr (spelling_next?_ne_nil h)
  have hlen := congrArg List.length (next?_append h)
  rw [List.length_append] at hlen
  omega

end Next

end Part

/-- The parts of a text, in the order in which a scan passes them. -/
def parts (p : Policy) (text : List Char) : List Part :=
  match _h : Part.next? p text with
  | none => []
  | some (part, rest) => part :: parts p rest
termination_by text.length
decreasing_by exact Part.length_next?_lt _h

section Parts

variable {p : Policy} {text rest : List Char} {part : Part}

theorem parts_of_next?_eq_none (h : Part.next? p text = none) : parts p text = [] := by
  rw [parts]
  split
  · rfl
  · next hsome => rw [h] at hsome; cases hsome

theorem parts_of_next?_eq_some (h : Part.next? p text = some (part, rest)) :
    parts p text = part :: parts p rest := by
  rw [parts]
  split
  · next hnone => rw [h] at hnone; cases hnone
  · next hsome => rw [h] at hsome; cases hsome; rfl

@[simp] theorem parts_nil (p : Policy) : parts p [] = [] :=
  parts_of_next?_eq_none (Part.next?_eq_none_iff.mpr rfl)

/-- The parts of a text make up the text. -/
@[simp] theorem spellAll_parts (p : Policy) (text : List Char) :
    Part.spellAll (parts p text) = text := by
  fun_induction parts p text with
  | case1 text hnone => exact (Part.next?_eq_none_iff.mp hnone).symm
  | case2 text part rest hsome ih => rw [Part.spellAll_cons, ih, Part.next?_append hsome]

theorem next?_of_parts_eq_cons {later : List Part} (h : parts p text = part :: later) :
    Part.next? p text = some (part, Part.spellAll later) := by
  cases hnext : Part.next? p text with
  | none =>
      rw [parts_of_next?_eq_none hnext] at h
      cases h
  | some found =>
      rw [parts_of_next?_eq_some hnext] at h
      obtain ⟨rfl, rfl⟩ := List.cons.inj h
      rw [spellAll_parts]

/-- The later parts of a text are the parts of what the earlier ones leave. -/
theorem parts_of_eq_append {before later : List Part} (h : parts p text = before ++ later) :
    parts p (Part.spellAll later) = later := by
  induction before generalizing text with
  | nil =>
      rw [List.nil_append] at h
      rw [← h, spellAll_parts]
  | cons part before ih =>
      have hnext := next?_of_parts_eq_cons h
      rw [parts_of_next?_eq_some hnext] at h
      exact ih (List.cons.inj h).2

/-- The lexemes of a text are that of its first part, if this is one, and the lexemes of what
follows the part. -/
theorem lexemes_of_first (h : Part.next? p text = some (part, rest)) :
    lexemes p text = part.lexeme?.toList ++ lexemes p rest := by
  rcases Part.next?_cases h with ⟨chars, rfl, rfl, hpiece⟩ | ⟨c, tail, l, rfl, rfl, hend, hread⟩
  · exact lexemes_append_of_isGap hpiece.isGap
  · exact lexemes_of_next?_eq_some (Reading.next?_of_exhausted hend hread)

/-- The tokens of a text are that of its first part, if this is a lexeme, and the tokens of what
follows the part. -/
theorem tokensFrom_of_first (h : Part.next? p text = some (part, rest)) (start : Position) :
    tokensFrom p start text =
      part.lexeme?.toList.map (·.token start) ++ tokensFrom p (start.after part.spelling) rest := by
  rcases Part.next?_cases h with ⟨chars, rfl, rfl, hpiece⟩ | ⟨c, tail, l, rfl, rfl, hend, hread⟩
  · exact tokensFrom_append_of_isGap hpiece.isGap start
  · exact tokensFrom_of_next?_eq_some (Reading.next?_of_exhausted hend hread)

/-- The lexemes among the parts of a text are its lexemes. -/
theorem filterMap_parts (p : Policy) (text : List Char) :
    (parts p text).filterMap Part.lexeme? = lexemes p text := by
  fun_induction parts p text with
  | case1 text hnone =>
      rw [Part.next?_eq_none_iff.mp hnone, lexemes_nil]
      rfl
  | case2 text part rest hsome ih =>
      rw [lexemes_of_first hsome, ← ih]
      cases part with
      | piece chars => rfl
      | lexeme l => rfl

end Parts

end UnitScan

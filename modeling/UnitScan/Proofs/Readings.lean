import UnitScan.TokenStream
import UnitScan.Proofs.GapGrammar
import UnitScan.Proofs.LexemeGrammar

/-!
# The steps of a scan

`readings` lists the steps that the scan of a text takes, so a statement about all tokens of a
text becomes an induction on this list. `tokensFrom_eq_map` reads the tokens off the steps, each
at the position of its lexeme in the whole text.

## Implementation notes

A step remembers what is left after its lexeme, and from that `Reading.offset` finds the place of
the lexeme in the text. So the steps need no counter of their own, and the steps of a text are
also steps of every longer text that ends with it.
-/

namespace UnitScan

namespace Reading

/-- How many characters of a text stand before the lexeme of one of its steps. -/
def offset (r : Reading) (text : List Char) : Nat :=
  text.length - (r.lexeme.spelling ++ r.rest).length

theorem next?_eq_some_iff {p : Policy} {text : List Char} {r : Reading} :
    next? p text = some r ↔
      ∃ c tail, Gap.split p text = (r.gap, c :: tail) ∧
        Lexeme.read p c tail = (r.lexeme, r.rest) := by
  constructor
  · intro h
    unfold next? at h
    split at h
    · cases h
    · next gap c tail heq =>
      cases h
      exact ⟨c, tail, heq, rfl⟩
  · rintro ⟨c, tail, hsplit, hread⟩
    simp [next?, hsplit, hread]

theorem next?_of_split_eq_cons {p : Policy} {text tail : List Char} {c : Char}
    (h : (Gap.split p text).2 = c :: tail) :
    next? p text =
      some ⟨(Gap.split p text).1, (Lexeme.read p c tail).1, (Lexeme.read p c tail).2⟩ := by
  apply next?_eq_some_iff.mpr
  exact ⟨c, tail, Prod.ext rfl h, rfl⟩

/-- A step at the front of a text divides every longer text that ends with it. -/
theorem append_append_of_next? {p : Policy} {text : List Char} {r : Reading}
    (h : next? p text = some r) (before : List Char) :
    before ++ text = (before ++ r.gap) ++ (r.lexeme.spelling ++ r.rest) := by
  rw [List.append_assoc, next?_append h]

theorem offset_append {p : Policy} {text : List Char} {r : Reading} (h : next? p text = some r)
    (before : List Char) : r.offset (before ++ text) = (before ++ r.gap).length := by
  rw [offset, append_append_of_next? h, List.length_append, Nat.add_sub_cancel]

theorem take_offset {p : Policy} {text : List Char} {r : Reading} (h : next? p text = some r)
    (before : List Char) : (before ++ text).take (r.offset (before ++ text)) = before ++ r.gap := by
  rw [offset_append h, append_append_of_next? h, List.take_left]

theorem drop_offset {p : Policy} {text : List Char} {r : Reading} (h : next? p text = some r)
    (before : List Char) :
    (before ++ text).drop (r.offset (before ++ text)) = r.lexeme.spelling ++ r.rest := by
  rw [offset_append h, append_append_of_next? h, List.drop_left]

theorem split_of_next?_eq_some {p : Policy} {text : List Char} {r : Reading}
    (h : next? p text = some r) : Gap.split p text = (r.gap, r.lexeme.spelling ++ r.rest) := by
  obtain ⟨c, tail, hsplit, hread⟩ := next?_eq_some_iff.mp h
  have htail := Lexeme.read_append p c tail
  rw [hread] at htail
  rw [hsplit, htail]

theorem isGap_of_next?_eq_some {p : Policy} {text : List Char} {r : Reading}
    (h : next? p text = some r) : Gap.IsGap p r.gap (r.lexeme.spelling ++ r.rest) :=
  (Gap.split_eq_iff.mp (split_of_next?_eq_some h)).2.1

/-- No piece of a gap begins where the lexeme of a step begins. -/
theorem exhausted_of_next?_eq_some {p : Policy} {text : List Char} {r : Reading}
    (h : next? p text = some r) : Gap.Exhausted p (r.lexeme.spelling ++ r.rest) :=
  (Gap.split_eq_iff.mp (split_of_next?_eq_some h)).2.2

/-- A text without a step is a gap. -/
theorem isGap_of_next?_eq_none {p : Policy} {text : List Char} (h : next? p text = none) :
    Gap.IsGap p text [] := by
  have hgap := Gap.isGap_split p text
  have hwhole := Gap.split_append p text
  rw [next?_eq_none_iff.mp h] at hgap hwhole
  rw [List.append_nil] at hwhole
  rw [hwhole] at hgap
  exact hgap

/-- Where no gap begins, the first step reads a lexeme at once. -/
theorem next?_of_exhausted {p : Policy} {c : Char} {tail rest : List Char} {l : Lexeme}
    (h : Gap.Exhausted p (c :: tail)) (hread : Lexeme.read p c tail = (l, rest)) :
    next? p (c :: tail) = some ⟨[], l, rest⟩ := by
  apply next?_eq_some_iff.mpr
  exact ⟨c, tail, Gap.split_eq_iff.mpr ⟨rfl, Gap.IsGap.nil, h⟩, hread⟩

/-- A gap at the front of a text becomes part of the gap of the first step. -/
theorem next?_append_of_isGap {p : Policy} {gap text : List Char} (h : Gap.IsGap p gap text) :
    next? p (gap ++ text) = (next? p text).map fun r => { r with gap := gap ++ r.gap } := by
  have hsplit := Gap.split_append_of_isGap h
  cases hnext : next? p text with
  | none =>
      rw [Option.map_none, next?_eq_none_iff, hsplit]
      exact next?_eq_none_iff.mp hnext
  | some r =>
      obtain ⟨c, tail, hr, hread⟩ := next?_eq_some_iff.mp hnext
      apply next?_eq_some_iff.mpr
      exact ⟨c, tail, by rw [hsplit, hr], hread⟩

/-- The lexeme of a step is allowed, or a stray character at which nothing allowed starts. -/
theorem allowed_or_stray {p : Policy} {text : List Char} {r : Reading}
    (h : next? p text = some r) :
    r.lexeme.Allowed p ∨ ∃ c, r.lexeme = .stray c ∧ Lexeme.StartsNone p c := by
  obtain ⟨c, tail, _, hread⟩ := next?_eq_some_iff.mp h
  have hcases := Lexeme.allowed_read_or_startsNone p c tail
  rcases hcases with hallowed | hnone
  · rw [hread] at hallowed
    exact Or.inl hallowed
  · rw [Lexeme.read_of_startsNone hnone] at hread
    exact Or.inr ⟨c, (Prod.mk.inj hread).1.symm, hnone⟩

end Reading

/-- The steps of the scan of a text, one for each of its tokens. -/
def readings (p : Policy) (text : List Char) : List Reading :=
  match _h : Reading.next? p text with
  | none => []
  | some r => r :: readings p r.rest
termination_by text.length
decreasing_by exact Reading.length_next?_lt _h

/-- The lexemes of a text. -/
def lexemes (p : Policy) (text : List Char) : List Lexeme := (readings p text).map Reading.lexeme

section Readings

variable {p : Policy} {text : List Char} {r : Reading}

theorem readings_of_next?_eq_none (h : Reading.next? p text = none) : readings p text = [] := by
  rw [readings]
  split
  · rfl
  · next hsome => rw [h] at hsome; cases hsome

theorem readings_of_next?_eq_some (h : Reading.next? p text = some r) :
    readings p text = r :: readings p r.rest := by
  rw [readings]
  split
  · next hnone => rw [h] at hnone; cases hnone
  · next hsome => rw [h] at hsome; cases hsome; rfl

/-- Every step is the first step of what the steps before it have left. -/
theorem exists_next?_of_mem_readings (h : r ∈ readings p text) :
    ∃ before rest, text = before ++ rest ∧ Reading.next? p rest = some r := by
  fun_induction readings p text with
  | case1 text hnone => cases h
  | case2 text s hsome ih =>
      rcases List.mem_cons.mp h with rfl | hmem
      · exact ⟨[], text, rfl, hsome⟩
      · obtain ⟨before, rest, hrest, hnext⟩ := ih hmem
        refine ⟨s.gap ++ (s.lexeme.spelling ++ before), rest, ?_, hnext⟩
        rw [← Reading.next?_append hsome, hrest]
        simp only [List.append_assoc]

/-- What is left at the lexeme of a step starts with the lexeme. -/
theorem drop_offset_of_mem_readings (h : r ∈ readings p text) :
    text.drop (r.offset text) = r.lexeme.spelling ++ r.rest := by
  obtain ⟨before, rest, rfl, hnext⟩ := exists_next?_of_mem_readings h
  exact Reading.drop_offset hnext before

theorem allowed_or_stray_of_mem_readings (h : r ∈ readings p text) :
    r.lexeme.Allowed p ∨ ∃ c, r.lexeme = .stray c ∧ Lexeme.StartsNone p c := by
  obtain ⟨_, _, _, hnext⟩ := exists_next?_of_mem_readings h
  exact Reading.allowed_or_stray hnext

theorem lexemes_of_next?_eq_none (h : Reading.next? p text = none) : lexemes p text = [] := by
  rw [lexemes, readings_of_next?_eq_none h, List.map_nil]

@[simp] theorem lexemes_nil (p : Policy) : lexemes p [] = [] := by
  apply lexemes_of_next?_eq_none
  rw [Reading.next?_eq_none_iff, Gap.split_of_piece?_eq_none rfl]

theorem lexemes_of_next?_eq_some (h : Reading.next? p text = some r) :
    lexemes p text = r.lexeme :: lexemes p r.rest := by
  rw [lexemes, readings_of_next?_eq_some h, List.map_cons, lexemes]

/-- A gap at the front of a text changes none of its lexemes. -/
theorem lexemes_append_of_isGap {gap : List Char} (h : Gap.IsGap p gap text) :
    lexemes p (gap ++ text) = lexemes p text := by
  have hfirst := Reading.next?_append_of_isGap h
  cases hnext : Reading.next? p text with
  | none =>
      rw [hnext, Option.map_none] at hfirst
      rw [lexemes_of_next?_eq_none hnext, lexemes_of_next?_eq_none hfirst]
  | some r =>
      rw [hnext, Option.map_some] at hfirst
      rw [lexemes_of_next?_eq_some hnext, lexemes_of_next?_eq_some hfirst]

/-- A gap at the front of a text moves the first token behind the gap. -/
theorem tokensFrom_append_of_isGap {gap : List Char} (h : Gap.IsGap p gap text)
    (start : Position) :
    tokensFrom p start (gap ++ text) = tokensFrom p (start.after gap) text := by
  have hfirst := Reading.next?_append_of_isGap h
  cases hnext : Reading.next? p text with
  | none =>
      rw [hnext, Option.map_none] at hfirst
      rw [tokensFrom_of_next?_eq_none hnext, tokensFrom_of_next?_eq_none hfirst]
  | some r =>
      rw [hnext, Option.map_some] at hfirst
      rw [tokensFrom_of_next?_eq_some hnext, tokensFrom_of_next?_eq_some hfirst]
      simp only [Reading.lexemeEnd, Reading.lexemeStart, Position.after_append]

end Readings

/-! ### Tokens from steps -/

/-- The tokens of the end of a text, when their positions are counted in the whole text. -/
theorem tokensFrom_eq_map (p : Policy) (before text : List Char) :
    tokensFrom p (Position.start.after before) text =
      (readings p text).map fun r =>
        r.lexeme.token (Position.start.after
          ((before ++ text).take (r.offset (before ++ text)))) := by
  fun_induction readings p text generalizing before with
  | case1 text hnone => exact tokensFrom_of_next?_eq_none hnone
  | case2 text r hsome ih =>
      have hstart : r.lexemeStart (Position.start.after before) =
          Position.start.after ((before ++ text).take (r.offset (before ++ text))) := by
        rw [Reading.take_offset hsome, Position.after_append, Reading.lexemeStart]
      have hend : r.lexemeEnd (Position.start.after before) =
          Position.start.after (before ++ (r.gap ++ r.lexeme.spelling)) := by
        simp only [Reading.lexemeEnd, Reading.lexemeStart, Position.after_append]
      have htext : before ++ (r.gap ++ r.lexeme.spelling) ++ r.rest = before ++ text := by
        rw [← Reading.next?_append hsome]
        simp only [List.append_assoc]
      rw [tokensFrom_of_next?_eq_some hsome, List.map_cons, hstart, hend, ih, htext]

theorem tokens_eq_map (p : Policy) (text : List Char) :
    tokens p text =
      (readings p text).map fun r =>
        r.lexeme.token (Position.start.after (text.take (r.offset text))) :=
  tokensFrom_eq_map p [] text

theorem isEnd_of_mem_tokens {p : Policy} {text : List Char} {t : Token}
    (h : t ∈ tokens p text) : t.isEnd = false := by
  rw [tokens_eq_map] at h
  obtain ⟨r, -, rfl⟩ := List.mem_map.mp h
  exact Lexeme.isEnd_token _ _

/-- Up to their positions the tokens are those of the lexemes. -/
theorem map_content_tokens (p : Policy) (text : List Char) :
    (tokens p text).map Token.content = (lexemes p text).map Lexeme.content := by
  rw [tokens_eq_map, lexemes, List.map_map, List.map_map]
  exact List.map_congr_left fun r _ => Lexeme.content_token r.lexeme _

end UnitScan

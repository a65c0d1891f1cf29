import UnitScan.Proofs.Boundaries
import UnitScan.Proofs.StreamTokens
import UnitScan.Proofs.TextPositions

/-!
# Lines are scanned apart

A newline that no continuation swallows divides the scan of a text: what stands before it is
scanned as if the text ended there, the newline is a token, and what stands after it is scanned
as a text of its own, only on later lines. Neither a comment nor a lexeme nor a look ahead for
the rest of a number reaches beyond a newline.
-/

namespace UnitScan

namespace Policy

/-- Whether a newline after a text would be part of a continuation. -/
def Joins (p : Policy) (text : List Char) : Prop :=
  p.settings.continuation = true ∧ text.getLast? = some '\\'

/-- The end of a text decides whether it joins the next line. -/
theorem not_joins_of_append {p : Policy} {before text : List Char}
    (h : ¬p.Joins (before ++ text)) : ¬p.Joins text := by
  rintro ⟨hon, hlast⟩
  apply h
  exact ⟨hon, by rw [List.getLast?_append, hlast, Option.some_or]⟩

end Policy

/-! ### Gaps before a newline -/

namespace Gap

variable {p : Policy} {gap text : List Char}

theorem IsGap.append_newline (h : IsGap p gap text) (more : List Char) :
    IsGap p gap (text ++ '\n' :: more) := by
  apply h.append
  rintro - x ⟨⟩
  rfl

/-- Where a lexeme begins, a newline further on does not make a gap begin, unless it completes a
continuation. -/
theorem Exhausted.append_newline {c : Char} (h : Exhausted p (c :: text))
    (hjoins : ¬p.Joins (c :: text)) (more : List Char) :
    Exhausted p (c :: (text ++ '\n' :: more)) := by
  apply h.append
  rintro hon rfl rfl
  exact absurd ⟨hon, rfl⟩ hjoins

theorem exhausted_newline (p : Policy) (more : List Char) : Exhausted p ('\n' :: more) := by
  apply exhausted_of_ne_continuation p.isBlank_newline p.marker_ne_newline
  intro _ h
  cases h

end Gap

/-! ### Steps before a newline -/

namespace Reading

variable {p : Policy} {text : List Char} {r : Reading}

/-- A step takes the same gap and the same lexeme when a newline follows the text. -/
theorem next?_append_newline (h : next? p text = some r) (hjoins : ¬p.Joins text)
    (more : List Char) :
    next? p (text ++ '\n' :: more) = some { r with rest := r.rest ++ '\n' :: more } := by
  obtain ⟨c, tail, hsplit, hread⟩ := next?_eq_some_iff.mp h
  obtain ⟨rfl, hgap, hend⟩ := Gap.split_eq_iff.mp hsplit
  have hboundary := p.boundary_newline.head?_cons more
  apply next?_eq_some_iff.mpr
  refine ⟨c, tail ++ '\n' :: more, ?_, ?_⟩
  · apply Gap.split_eq_iff.mpr
    refine ⟨by simp, ?_, ?_⟩
    · rw [← List.cons_append]
      exact hgap.append_newline more
    · exact hend.append_newline (Policy.not_joins_of_append hjoins) more
  · rw [Lexeme.read_append_boundary hboundary, hread]

/-- A gap before a newline leaves the newline as the next lexeme. -/
theorem next?_append_newline_of_none (h : next? p text = none) (more : List Char) :
    next? p (text ++ '\n' :: more) = some ⟨text, .newline, more⟩ := by
  apply next?_eq_some_iff.mpr
  refine ⟨'\n', more, ?_, Lexeme.read_newline p more⟩
  apply Gap.split_eq_iff.mpr
  refine ⟨rfl, ?_, Gap.exhausted_newline p more⟩
  simpa using (isGap_of_next?_eq_none h).append_newline more

end Reading

/-- The tokens before a newline, the token of the newline, and the tokens after it. -/
theorem tokensFrom_append_newline {p : Policy} {text : List Char} (hjoins : ¬p.Joins text)
    (start : Position) (more : List Char) :
    tokensFrom p start (text ++ '\n' :: more) =
      tokensFrom p start text ++ Lexeme.newline.token (start.after text) ::
        tokensFrom p ((start.after text).advance '\n') more := by
  fun_induction readings p text generalizing start with
  | case1 text hnone =>
      rw [tokensFrom_of_next?_eq_some (Reading.next?_append_newline_of_none hnone more),
        tokensFrom_of_next?_eq_none hnone]
      rfl
  | case2 text r hsome ih =>
      have htext := Reading.next?_append hsome
      have hrest : ¬p.Joins r.rest := by
        rw [← htext, ← List.append_assoc] at hjoins
        exact Policy.not_joins_of_append hjoins
      have hafter : (r.lexemeEnd start).after r.rest = start.after text := by
        rw [← htext]
        simp only [Reading.lexemeEnd, Reading.lexemeStart, Position.after_append]
      rw [tokensFrom_of_next?_eq_some (Reading.next?_append_newline hsome hjoins more),
        tokensFrom_of_next?_eq_some hsome, List.cons_append, ← hafter, ← ih hrest]
      rfl

/-! ### Later lines -/

/-- The position in the same column, so many lines further down. -/
def Position.shiftLines (n : Nat) (pos : Position) : Position := ⟨pos.line + n, pos.column⟩

/-- The same token, so many lines further down. -/
def Token.shiftLines (n : Nat) (t : Token) : Token := { t with position := t.position.shiftLines n }

namespace Position

theorem advance_shiftLines (pos : Position) (n : Nat) (c : Char) :
    (pos.shiftLines n).advance c = (pos.advance c).shiftLines n := by
  unfold advance
  split
  · simp only [shiftLines, Int.add_right_comm]
  · rfl

theorem after_shiftLines (pos : Position) (n : Nat) (text : List Char) :
    (pos.shiftLines n).after text = (pos.after text).shiftLines n := by
  induction text generalizing pos with
  | nil => rfl
  | cons c text ih => rw [after_cons, advance_shiftLines, ih, after_cons]

/-- The position behind a text and a newline is at the start of a later line. -/
theorem advance_after_newline (text : List Char) :
    (start.after text).advance '\n' = start.shiftLines (1 + text.count '\n') := by
  rw [start_after, advance, if_pos rfl]
  simp [shiftLines, start]
  omega

end Position

/-- A scan that starts further down finds the same tokens further down. -/
theorem tokensFrom_shiftLines (p : Policy) (start : Position) (n : Nat) (text : List Char) :
    tokensFrom p (start.shiftLines n) text =
      (tokensFrom p start text).map (Token.shiftLines n) := by
  fun_induction readings p text generalizing start with
  | case1 text hnone =>
      rw [tokensFrom_of_next?_eq_none hnone, tokensFrom_of_next?_eq_none hnone, List.map_nil]
  | case2 text r hsome ih =>
      have hstart : r.lexemeStart (start.shiftLines n) = (r.lexemeStart start).shiftLines n :=
        Position.after_shiftLines start n r.gap
      have hend : r.lexemeEnd (start.shiftLines n) = (r.lexemeEnd start).shiftLines n := by
        rw [Reading.lexemeEnd, hstart, Position.after_shiftLines, Reading.lexemeEnd]
      rw [tokensFrom_of_next?_eq_some hsome, tokensFrom_of_next?_eq_some hsome, hstart, hend, ih]
      rfl

/-- Two texts joined by a newline have the tokens of the first text, the token of the newline
where the first text ends, and the tokens of the second text, as many lines further down as the
first text has. The newline must not be part of a continuation. -/
theorem tokens_append_newline (p : Policy) (first second : List Char)
    (h : first.getLast? ≠ some '\\' ∨ p.settings.continuation = false) :
    tokens p (first ++ '\n' :: second) =
      tokens p first ++ ⟨.newline, .none, Position.atOffset first first.length⟩ ::
        (tokens p second).map (Token.shiftLines (1 + first.count '\n')) := by
  have hjoins : ¬p.Joins first := by
    rintro ⟨hon, hlast⟩
    rcases h with h | h
    · exact h hlast
    · rw [h] at hon
      cases hon
  have hpos : Position.start.after first = Position.atOffset first first.length := by
    rw [← Position.start_after_take, List.take_length]
  simp only [tokens_eq]
  rw [tokensFrom_append_newline hjoins, Position.advance_after_newline, tokensFrom_shiftLines,
    hpos]
  rfl

/-- A comment, a point and an exponent mark without digits, and a sign at the start of the next
line. -/
theorem tokens_append_newline_standard :
    ("3. @ # x\n7e".toList.getLast? ≠ some '\\' ∨
        Policy.standard.settings.continuation = false) ∧
      tokens Policy.standard ("3. @ # x\n7e".toList ++ '\n' :: "+5\\ a".toList) =
        tokens Policy.standard "3. @ # x\n7e".toList ++
          ⟨.newline, .none, Position.atOffset "3. @ # x\n7e".toList "3. @ # x\n7e".toList.length⟩ ::
            (tokens Policy.standard "+5\\ a".toList).map
              (Token.shiftLines (1 + "3. @ # x\n7e".toList.count '\n')) := by
  have hlast : "3. @ # x\n7e".toList.getLast? ≠ some '\\' ∨
      Policy.standard.settings.continuation = false := Or.inl (by decide)
  exact ⟨hlast, tokens_append_newline _ _ _ hlast⟩

end UnitScan

import UnitScan.Proofs.StreamTokens
import UnitScan.Proofs.TextPositions

/-!
# Tokens stand where their lexemes stand

The scanner follows positions character by character, through gaps and lexemes alike. Every token
of a stream, the end token included, has the position that is counted from the text alone, and
the lines of the text have the lexeme at that line and column.
-/

namespace UnitScan

namespace Reading

/-- The position of the lexeme of a step, counted in the whole text. -/
def place (r : Reading) (text : List Char) : Position := Position.atOffset text (r.offset text)

/-- The lexeme of a step stands where its offset says, and the lines of the text have it where
its place says: a newline right after the last character of its line, and the first character
of any other lexeme at its column. -/
structure InPlace (r : Reading) (text : List Char) : Prop where
  start : text.drop (r.offset text) = r.lexeme.spelling ++ r.rest
  newline : r.lexeme = .newline →
    ∃ l, (Text.lines text)[((r.place text).line - 1).toNat]? = some l ∧
      (r.place text).column = l.length + 1
  first : r.lexeme ≠ .newline →
    ∃ l c cs, (Text.lines text)[((r.place text).line - 1).toNat]? = some l ∧
      r.lexeme.spelling = c :: cs ∧ l[((r.place text).column - 1).toNat]? = some c

variable {p : Policy} {text : List Char} {r : Reading}

/-- The line of a lexeme goes on with the lexeme where its column says, up to a newline. -/
theorem getElem?_lines_place (h : r ∈ readings p text) :
    ∃ before, (Text.lines text)[((r.place text).line - 1).toNat]? =
        some (before ++ (r.lexeme.spelling ++ r.rest).takeWhile (· ≠ '\n')) ∧
      (r.place text).column = before.length + 1 := by
  have hline : ((r.place text).line - 1).toNat = (text.take (r.offset text)).count '\n' := by
    simp only [place, Position.atOffset]
    omega
  have hcolumn : (r.place text).column =
      (Text.lastLine (text.take (r.offset text))).length + 1 := by
    simp only [place, Position.atOffset]
    omega
  have hlines := Text.getElem?_lines_append (text.take (r.offset text))
    (text.drop (r.offset text))
  rw [List.take_append_drop, drop_offset_of_mem_readings h] at hlines
  refine ⟨Text.lastLine (text.take (r.offset text)), ?_, hcolumn⟩
  rw [hline]
  exact hlines

theorem exists_cons_of_ne_newline (h : r ∈ readings p text) (hl : r.lexeme ≠ .newline) :
    ∃ c cs, r.lexeme.spelling = c :: cs ∧ c ≠ '\n' := by
  rcases allowed_or_stray_of_mem_readings h with hallowed | ⟨c, hstray, hnone⟩
  · obtain ⟨c, cs, hspelling, _⟩ := hallowed.spelling_eq_cons
    exact ⟨c, cs, hspelling, hallowed.head_ne_newline hl hspelling⟩
  · refine ⟨c, [], ?_, hnone.newline⟩
    rw [hstray]
    rfl

theorem inPlace_of_mem_readings (h : r ∈ readings p text) : r.InPlace text where
  start := drop_offset_of_mem_readings h
  newline := by
    intro hl
    obtain ⟨before, hline, hcolumn⟩ := getElem?_lines_place h
    refine ⟨before, ?_, hcolumn⟩
    rw [hline, hl]
    simp [Lexeme.spelling]
  first := by
    intro hl
    obtain ⟨before, hline, hcolumn⟩ := getElem?_lines_place h
    obtain ⟨c, cs, hspelling, hc⟩ := exists_cons_of_ne_newline h hl
    refine ⟨_, c, cs, hline, hspelling, ?_⟩
    have hindex : ((r.place text).column - 1).toNat = before.length := by omega
    rw [hindex, List.getElem?_append_right (Nat.le_refl _), Nat.sub_self, hspelling]
    simp [hc]

end Reading

/-- No place of a text is outside its lines. -/
theorem Position.line_atOffset_bounds (text : List Char) (offset : Nat) :
    1 ≤ (Position.atOffset text offset).line ∧
      (Position.atOffset text offset).line ≤ (Text.lines text).length := by
  have hle := (List.take_sublist offset text).count_le '\n'
  have hlength := Text.length_lines text
  simp only [Position.atOffset]
  omega

namespace TokenStream

theorem toList_ofText_eq_map (p : Policy) (text : List Char) :
    (ofText p text).toList.1 =
      (readings p text).map (fun r => r.lexeme.token (r.place text)) ++
        [.endAt (Position.atOffset text text.length)] := by
  have hend : Position.start.after text = Position.atOffset text text.length := by
    rw [← Position.start_after_take, List.take_length]
  rw [toList_ofText, tokens_eq_map, hend]
  simp only [Position.start_after_take, Reading.place]

theorem line_bounds_of_mem_toList {p : Policy} {text : List Char} {t : Token}
    (h : t ∈ (ofText p text).toList.1) :
    1 ≤ t.position.line ∧ t.position.line ≤ (Text.lines text).length := by
  rw [toList_ofText_eq_map, List.mem_append] at h
  rcases h with h | h
  · obtain ⟨r, -, rfl⟩ := List.mem_map.mp h
    exact Position.line_atOffset_bounds text (r.offset text)
  · rw [List.mem_singleton.mp h]
    exact Position.line_atOffset_bounds text text.length

/-- The tokens of a new stream are those of the steps of the scan, each at the position that is
counted from the characters before its lexeme, and then an end token at the end of the text. So
every token is on a line of the text, a newline stands right after its line, and any other lexeme
is found in its line at its column. -/
theorem toList_ofText_placed (p : Policy) (text : List Char) :
    (ofText p text).toList.1 =
        (readings p text).map (fun r => r.lexeme.token (r.place text)) ++
          [.endAt (Position.atOffset text text.length)] ∧
      (∀ r ∈ readings p text, r.InPlace text) ∧
      ∀ t ∈ (ofText p text).toList.1,
        1 ≤ t.position.line ∧ t.position.line ≤ (Text.lines text).length := by
  refine ⟨toList_ofText_eq_map p text, ?_, ?_⟩
  · intro r hr
    exact Reading.inPlace_of_mem_readings hr
  · intro t ht
    exact line_bounds_of_mem_toList ht

end TokenStream

end UnitScan

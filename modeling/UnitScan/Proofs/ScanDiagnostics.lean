import UnitScan.Proofs.CollectedDiagnostics
import UnitScan.Proofs.TokenTape

/-!
# Diagnostics of a text can be made

A token of a text that is an error stands where the text has the character that it reports, so its
diagnostic can be made. Collecting the errors of a text can then fail for no other reason than its
limit.

## Implementation notes

That a text has a character at a place decides whether the numbers of the place are checked.
`makeOfToken_eq_make` is the reason why this makes no difference: the checks succeed anyway for a
text that is shorter than texts can be.
-/

namespace UnitScan

/-! ### Places in a text -/

namespace Text

theorem length_le_of_mem_lines {text line : List Char} (h : line ∈ lines text) :
    line.length ≤ text.length := by
  induction text generalizing line with
  | nil =>
      cases List.mem_singleton.mp h
      exact Nat.le_refl _
  | cons c text ih =>
      by_cases hc : c = '\n'
      · subst hc
        rw [lines_newline_cons, List.mem_cons] at h
        rcases h with rfl | h
        · exact Nat.zero_le _
        · exact Nat.le_succ_of_le (ih h)
      · rw [lines_cons_of_ne hc] at h
        cases hlines : lines text with
        | nil =>
            rw [hlines] at h
            cases h
        | cons first others =>
            rw [hlines, List.modifyHead_cons, List.mem_cons] at h
            rw [hlines] at ih
            rcases h with rfl | h
            · exact Nat.succ_le_succ (ih List.mem_cons_self)
            · exact Nat.le_succ_of_le (ih (List.mem_cons_of_mem _ h))

theorem length_lines_le (text : List Char) : (lines text).length ≤ text.length + 1 := by
  rw [length_lines]
  exact Nat.succ_le_succ List.count_le_length

/-- A number that counts parts of a text can be written. -/
theorem writable_of_lt {n : Int} (hpositive : 0 < n) (h : n < lengthLimit) : Writable n := by
  have hlimits : lengthLimit < numberLimit := by decide +kernel
  rw [Writable]
  omega

end Text

namespace Diagnostic

/-- A place where a text has a character is within the text. -/
theorem le_length_of_charAt? {text : List Char} {place : Position} {c : Char}
    (h : charAt? (Text.lines text) place = some c) :
    0 < place.line ∧ place.line ≤ text.length + 1 ∧
      0 < place.column ∧ place.column ≤ text.length := by
  unfold charAt? at h
  split at h
  · next hpositive =>
    obtain ⟨line, hline, hchar⟩ := Option.bind_eq_some_iff.mp h
    obtain ⟨hnumber, hget⟩ := List.getElem?_eq_some_iff.mp hline
    obtain ⟨hindex, -⟩ := List.getElem?_eq_some_iff.mp hchar
    have hlines := Text.length_lines_le text
    have hlength := Text.length_le_of_mem_lines (List.mem_of_getElem? hline)
    omega
  · cases h

/-- For a text whose carets can all be placed, the diagnostics of tokens are made like any other
ones. -/
theorem makeOfToken_eq_make {text : List Char} (h : text.length + 3 < Text.lengthLimit)
    (source : String) (t : Token) :
    makeOfToken (Text.lines text) source t = (ofToken (Text.lines text) source t).make := by
  unfold makeOfToken
  split
  · next hplace =>
    obtain ⟨c, hc⟩ := Option.isSome_iff_exists.mp hplace
    obtain ⟨hline, hline', hcolumn, hcolumn'⟩ := le_length_of_charAt? hc
    refine (make_eq_ok (fault?_ofToken_eq_none_iff.mpr ⟨?_, ?_, fun _ => ?_⟩)).symm
    · exact Text.writable_of_lt hline (by omega)
    · exact Text.writable_of_lt hcolumn (by omega)
    · omega
  · rfl

/-! ### Tokens of a text -/

/-- An error token reports the character that its line has at its column. -/
theorem exists_stray_of_mem_tokens {p : Policy} {text : List Char} {t : Token}
    (h : t ∈ tokens p text) (herror : t.isError = true) :
    ∃ x row, t.payload = .text (Lexeme.strayMessage x) ∧
      1 ≤ t.position.line ∧ 1 ≤ t.position.column ∧
      (Text.lines text)[(t.position.line - 1).toNat]? = some row ∧
      row[(t.position.column - 1).toNat]? = some x := by
  rw [tokens_eq_map_place] at h
  obtain ⟨r, hr, rfl⟩ := List.mem_map.mp h
  obtain ⟨x, hx⟩ := Lexeme.isError_token_iff.mp herror
  have hne : r.lexeme ≠ .newline := by
    rw [hx]
    exact Lexeme.noConfusion
  obtain ⟨row, c, cs, hrow, hspelling, hcolumn⟩ :=
    (Reading.inPlace_of_mem_readings hr).first hne
  have hxc : x = c := by
    rw [hx] at hspelling
    exact (List.cons.inj hspelling).1
  have hpositive : 1 ≤ (r.place text).column := by
    simp only [Reading.place, Position.atOffset]
    omega
  refine ⟨x, row, ?_, ?_, hpositive, hrow, hxc ▸ hcolumn⟩
  · rw [hx]
    rfl
  · exact (Position.line_atOffset_bounds text (r.offset text)).1

theorem charAt?_of_mem_tokens {p : Policy} {text : List Char} {t : Token}
    (h : t ∈ tokens p text) (herror : t.isError = true) :
    (charAt? (Text.lines text) t.position).isSome = true := by
  obtain ⟨x, row, -, hline, hcolumn, hrow, hx⟩ := exists_stray_of_mem_tokens h herror
  have hindex : (t.position.line - 1).toNat = t.position.line.toNat - 1 := by omega
  have hindex' : (t.position.column - 1).toNat = t.position.column.toNat - 1 := by omega
  rw [hindex] at hrow
  rw [hindex'] at hx
  rw [charAt?, if_pos (by omega), hrow, Option.isSome_iff_exists]
  exact ⟨x, hx⟩

section Text

variable (p : Policy) (text : List Char) (source : String)

theorem makeOfToken_of_mem_tokens {p : Policy} {text : List Char} {t : Token}
    (h : t ∈ tokens p text) (herror : t.isError = true) (source : String) :
    makeOfToken (Text.lines text) source t = .ok (ofToken (Text.lines text) source t) :=
  if_pos (charAt?_of_mem_tokens h herror)

theorem makes_tokens : Makes text source ((tokens p text).filter Token.isError) := by
  intro t ht
  obtain ⟨hmem, herror⟩ := List.mem_filter.mp ht
  exact ⟨_, makeOfToken_of_mem_tokens hmem herror source⟩

theorem makes_take_tokens (n : Nat) :
    Makes text source (((tokens p text).filter Token.isError).take n) := fun t ht =>
  makes_tokens p text source t (List.mem_of_mem_take ht)

/-- The first error of a text has a diagnostic. -/
theorem first?_tokens :
    first? (tokens p text) text source = (ofTokens (tokens p text) text source).head?.map .ok :=
  first?_eq_map_ok (makes_take_tokens p text source 1)

variable {limit : Int}

/-- The first errors of a text are kept, up to a limit that can be written or is not exceeded. -/
theorem collect_tokens (h : max limit 0 < Token.errorCount (tokens p text) → Text.Writable limit) :
    collect (tokens p text) text source limit =
      ⟨.ok (Collector.filled limit (ofTokens (tokens p text) text source)).value,
        (Collector.filled limit (ofTokens (tokens p text) text source)).events⟩ :=
  collect_eq_filled (makes_take_tokens p text source _) fun hmore => h (by omega)

theorem collect_tokens_eq_error (hmore : max limit 0 < Token.errorCount (tokens p text))
    (hlimit : ¬Text.Writable limit) :
    collect (tokens p text) text source limit = ⟨.error .number, []⟩ :=
  collect_eq_error_of_not_writable (makes_take_tokens p text source _) (by omega) hlimit

end Text

end Diagnostic

end UnitScan

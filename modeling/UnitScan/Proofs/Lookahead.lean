import UnitScan.Proofs.TokenTape

/-!
# The scanner looks three characters ahead

What the scanner makes of a lexeme depends on at most three characters behind it: a number looks
for an exponent mark, a sign and a digit, and everything else looks less far. So a token of a text
that is followed by three more characters is a token of every longer text that begins with this
one. Only tokens that end within the last two characters can change when the text goes on.
-/

namespace UnitScan

/-! ### Numerals -/

namespace Numeral

/-- The sign of an exponent is one character, so one character of a text decides it. -/
theorem readSign_append_of_ne_nil {text : List Char} (h : text ≠ []) (more : List Char) :
    readSign (text ++ more) = ((readSign text).1, (readSign text).2 ++ more) := by
  cases text with
  | nil => exact absurd rfl h
  | cons c rest =>
      rw [List.cons_append, readSign, readSign]
      split <;> rfl

/-- A fraction looks for a point and a digit. -/
theorem readFraction_append_of_length {text : List Char}
    (h : 2 ≤ (readFraction text).2.length) (more : List Char) :
    readFraction (text ++ more) = ((readFraction text).1, (readFraction text).2 ++ more) := by
  cases text with
  | nil => cases h
  | cons c rest =>
      by_cases hc : c = '.'
      · subst hc
        have hend : rest.dropWhile Char.isDigit ≠ [] := by
          -- If the digits went up to the end, at most the point would be left.
          intro hnil
          have hwhole := List.takeWhile_append_dropWhile (p := Char.isDigit) (l := rest)
          simp only [readFraction] at h
          split at h
          · next hnone =>
            rw [hnone, hnil] at hwhole
            simp [← hwhole] at h
          · simp [hnil] at h
        simp only [List.cons_append, readFraction, takeWhile_append_of_dropWhile_ne_nil hend,
          dropWhile_append_of_dropWhile_ne_nil hend]
        split <;> rfl
      · rw [List.cons_append, readFraction_of_ne_point hc, readFraction_of_ne_point hc,
          List.cons_append]

/-- An exponent looks for its mark, a sign and a digit. -/
theorem readExponent_append_of_length {text : List Char}
    (h : 3 ≤ (readExponent text).2.length) (more : List Char) :
    readExponent (text ++ more) = ((readExponent text).1, (readExponent text).2 ++ more) := by
  cases text with
  | nil => cases h
  | cons c rest =>
      by_cases hc : Exponent.isMark c = true
      · have hsign : rest.length ≤ 1 + (readSign rest).2.length := by
          have happend := congrArg List.length (readSign_append rest)
          have hone := Option.length_toList_le (o := (readSign rest).1)
          rw [List.length_append] at happend
          omega
        have hend : (readSign rest).2.dropWhile Char.isDigit ≠ [] := by
          -- If the digits went up to the end, at most the mark and a sign would be left.
          intro hnil
          have hwhole :=
            List.takeWhile_append_dropWhile (p := Char.isDigit) (l := (readSign rest).2)
          simp only [readExponent, if_pos hc] at h
          split at h
          · next hnone =>
            rw [hnone, hnil] at hwhole
            rw [← hwhole] at hsign
            simp at h hsign
            omega
          · simp [hnil] at h
        have hrest : rest ≠ [] := by
          rintro rfl
          exact hend rfl
        simp only [List.cons_append, readExponent, readSign_append_of_ne_nil hrest,
          takeWhile_append_of_dropWhile_ne_nil hend, dropWhile_append_of_dropWhile_ne_nil hend,
          if_pos hc]
        split <;> rfl
      · simp [readExponent, hc]

/-- No part of a numeral depends on more than three characters behind the numeral. -/
theorem read_append_of_length {text : List Char} (h : 3 ≤ (read text).2.length)
    (more : List Char) : read (text ++ more) = ((read text).1, (read text).2 ++ more) := by
  have hend : 3 ≤ (readExponent (readFraction (text.dropWhile Char.isDigit)).2).2.length := h
  have hexponent : 3 ≤ (readFraction (text.dropWhile Char.isDigit)).2.length :=
    hend.trans (readExponent_suffix _).length_le
  have hinteger : text.dropWhile Char.isDigit ≠ [] := by
    apply List.ne_nil_of_length_pos
    have hle := (readFraction_suffix (text.dropWhile Char.isDigit)).length_le
    omega
  simp only [read, takeWhile_append_of_dropWhile_ne_nil hinteger,
    dropWhile_append_of_dropWhile_ne_nil hinteger,
    readFraction_append_of_length (Nat.le_of_succ_le hexponent),
    readExponent_append_of_length hend]

end Numeral

/-! ### Steps of a scan -/

/-- A lexeme that is followed by three characters is the same when the text goes on. -/
theorem Lexeme.read_append_of_length {p : Policy} {c : Char} {tail : List Char}
    (h : 3 ≤ (read p c tail).2.length) (more : List Char) :
    read p c (tail ++ more) = ((read p c tail).1, (read p c tail).2 ++ more) := by
  rcases class_cases p c with rfl | hstart | hdigit | ⟨o, rfl⟩ | hnone
  · rw [read_newline, read_newline]
  · rw [read_of_startsIdent hstart] at h
    have hend : tail.dropWhile p.continuesIdent ≠ [] := by
      apply List.ne_nil_of_length_pos
      exact Nat.lt_of_lt_of_le (by decide) h
    rw [read_of_startsIdent hstart, read_of_startsIdent hstart,
      takeWhile_append_of_dropWhile_ne_nil hend, dropWhile_append_of_dropWhile_ne_nil hend]
  · rw [read_of_isDigit hdigit] at h
    rw [read_of_isDigit hdigit, read_of_isDigit hdigit, ← List.cons_append,
      Numeral.read_append_of_length h]
  · rw [read_operator, read_operator]
  · rw [read_of_startsNone hnone, read_of_startsNone hnone]

section Steps

variable {p : Policy} {text : List Char} {r : Reading}

/-- A step that leaves three characters is the same when the text goes on. -/
theorem Reading.next?_append_of_length (h : next? p text = some r) (hlen : 3 ≤ r.rest.length)
    (more : List Char) :
    next? p (text ++ more) = some { r with rest := r.rest ++ more } := by
  obtain ⟨c, tail, hsplit, hread⟩ := next?_eq_some_iff.mp h
  obtain ⟨rfl, hgap, hend⟩ := Gap.split_eq_iff.mp hsplit
  have hrest : (Lexeme.read p c tail).2 = r.rest := congrArg Prod.snd hread
  have htail : tail ≠ [] := by
    apply List.ne_nil_of_length_pos
    have hle := Lexeme.length_read_le p c tail
    rw [hrest] at hle
    omega
  rw [← hrest] at hlen
  apply next?_eq_some_iff.mpr
  refine ⟨c, tail ++ more, ?_, ?_⟩
  · apply Gap.split_eq_iff.mpr
    refine ⟨by simp, ?_, ?_⟩
    · rw [← List.cons_append]
      apply hgap.append
      intro hnil
      cases hnil
    · apply hend.append
      intro _ _ hnil
      exact absurd hnil htail
  · rw [Lexeme.read_append_of_length hlen, hread]

/-- Every step leaves less than the steps before it. -/
theorem length_rest_le_of_mem_readings (h : r ∈ readings p text) :
    r.rest.length ≤ text.length := by
  obtain ⟨before, rest, rfl, hnext⟩ := exists_next?_of_mem_readings h
  have hlt := Reading.length_next?_lt hnext
  rw [List.length_append]
  omega

/-- The steps of a text that leave three characters are steps of every longer text. -/
theorem getElem?_readings_append {i : Nat} (h : (readings p text)[i]? = some r)
    (hlen : 3 ≤ r.rest.length) (more : List Char) :
    (readings p (text ++ more))[i]? = some { r with rest := r.rest ++ more } := by
  fun_induction readings p text generalizing i with
  | case1 text hnone => cases h
  | case2 text s hsome ih =>
      have hrest : 3 ≤ s.rest.length := by
        cases i with
        | zero =>
            cases h
            exact hlen
        | succ i =>
            have hmem : r ∈ readings p s.rest := List.mem_of_getElem? h
            exact hlen.trans (length_rest_le_of_mem_readings hmem)
      rw [readings_of_next?_eq_some (Reading.next?_append_of_length hsome hrest more)]
      cases i with
      | zero =>
          cases h
          rfl
      | succ i => exact ih h

end Steps

/-! ### Tokens -/

section Tokens

variable {p : Policy} {text : List Char} {r : Reading} {i : Nat}

/-- What stands behind a lexeme is what the text has behind the end of the lexeme. -/
theorem offset_add_length_add_rest (h : r ∈ readings p text) :
    r.offset text + r.lexeme.spelling.length + r.rest.length = text.length := by
  obtain ⟨before, rest, rfl, hnext⟩ := exists_next?_of_mem_readings h
  rw [Reading.offset_append hnext, Reading.append_append_of_next? hnext before]
  simp only [List.length_append]
  omega

/-- A step that leaves a longer text behind the same lexeme is at the same place. -/
theorem Reading.place_append (h : r ∈ readings p text) (more : List Char) :
    ({ r with rest := r.rest ++ more } : Reading).place (text ++ more) = r.place text := by
  have hsum := offset_add_length_add_rest h
  have hoffset : ({ r with rest := r.rest ++ more } : Reading).offset (text ++ more) =
      r.offset text := by
    simp only [offset, List.length_append]
    omega
  have htake : (text ++ more).take (r.offset text) = text.take (r.offset text) :=
    List.take_append_of_le_length (by omega)
  simp only [place, Position.atOffset, hoffset, htake]

theorem getElem?_tokens (h : (readings p text)[i]? = some r) :
    (tokens p text)[i]? = some (r.lexeme.token (r.place text)) := by
  rw [tokens_eq_map_place, List.getElem?_map, h, Option.map_some]

/-- A token that is followed by three characters is a token of every longer text. -/
theorem getElem?_tokens_append_of_length (h : (readings p text)[i]? = some r)
    (hlen : r.offset text + r.lexeme.spelling.length + 3 ≤ text.length) (more : List Char) :
    (tokens p (text ++ more))[i]? = some (r.lexeme.token (r.place text)) := by
  have hmem : r ∈ readings p text := List.mem_of_getElem? h
  have hsum := offset_add_length_add_rest hmem
  have hreading := getElem?_readings_append h (by omega) more
  rw [getElem?_tokens hreading, Reading.place_append hmem]

end Tokens

/-- A token whose lexeme ends three characters before the end of a text, or earlier, is the same
token in every text that begins with this one. So when a text goes on, only tokens change that end
within its last two characters or later. -/
theorem getElem?_tokens_append (p : Policy) (text more : List Char) :
    (∀ (i : Nat) (r : Reading), (readings p text)[i]? = some r →
        r.offset text + r.lexeme.spelling.length + 3 ≤ text.length →
          (tokens p text)[i]? = some (r.lexeme.token (r.place text)) ∧
            (tokens p (text ++ more))[i]? = some (r.lexeme.token (r.place text))) ∧
      ∀ i : Nat, (tokens p (text ++ more))[i]? ≠ (tokens p text)[i]? →
        text.length ≤ endOffset p text (i + 1) + 2 := by
  constructor
  · intro i r h hlen
    exact ⟨getElem?_tokens h, getElem?_tokens_append_of_length h hlen more⟩
  · intro i hne
    rw [endOffset]
    cases h : (readings p text)[i]? with
    | none =>
        rw [Option.elim_none]
        exact Nat.le_add_right _ 2
    | some r =>
        rw [Option.elim_some]
        by_contra hlt
        apply hne
        rw [getElem?_tokens h, getElem?_tokens_append_of_length h (by omega)]

/-- The number stays, with three characters behind it, and the name behind it goes on. -/
theorem getElem?_tokens_append_standard :
    (readings Policy.standard "1.5e3 ab".toList)[0]? =
        some ⟨[], .number ⟨['1'], some ['5'], some ⟨'e', none, ['3']⟩⟩, " ab".toList⟩ ∧
      (tokens Policy.standard ("1.5e3 ab".toList ++ "c".toList))[0]? =
        some ⟨.number, .number ⟨"1", some "5", some "3"⟩, ⟨1, 1⟩⟩ ∧
      "1.5e3 ab".toList.length ≤ endOffset Policy.standard "1.5e3 ab".toList 2 + 2 := by
  obtain ⟨hstays, hchanges⟩ :=
    getElem?_tokens_append Policy.standard "1.5e3 ab".toList "c".toList
  have hreading : (readings Policy.standard "1.5e3 ab".toList)[0]? =
      some ⟨[], .number ⟨['1'], some ['5'], some ⟨'e', none, ['3']⟩⟩, " ab".toList⟩ := by
    decide +kernel
  exact ⟨hreading, (hstays 0 _ hreading (by decide)).2, hchanges 1 (by decide +kernel)⟩

/-- Two characters behind a number are not enough: a sign may belong to its exponent. -/
example : endOffset Policy.standard "1e+".toList 1 = 1 ∧
    (tokens Policy.standard "1e+5".toList)[0]? ≠ (tokens Policy.standard "1e+".toList)[0]? := by
  decide +kernel

end UnitScan

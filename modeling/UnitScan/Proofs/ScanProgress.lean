import UnitScan.Proofs.StreamRefinement

/-!
# Every scan ends

What a token stream does is told here in single moves of its cursor. The loop that skips what
stands before a token makes one pass after the other, and the lexeme is read where the loop ends.
Every pass and every token but the end token take the cursor further, never beyond the end of the
text. So the loop ends, a text has no more tokens than characters, and its end token is reached
with one request more than there are tokens.

## Implementation notes

The passes are defined for settings that need not be free of faults, since the loop itself checks
nothing. A newline as comment marker would keep the loop where it is: the comment ends before the
newline that opens it. No policy has this marker.
-/

namespace UnitScan

/-! ### Comment markers -/

namespace Policy

theorem comment_ne_newline (p : Policy) : p.settings.comment ≠ some "\n" := by
  intro h
  apply p.marker_ne_newline
  rw [marker, Settings.commentChars, h]
  rfl

theorem commentChars_eq_singleton_iff {p : Policy} {x : Char} :
    p.settings.commentChars = [x] ↔ p.marker = some x := by
  constructor
  · intro h
    rw [marker, h, List.head?_cons]
  · exact commentChars_of_marker

/-- Settings whose comment marker is a newline are refused. -/
theorem Settings.exists_accept_eq_error {s : Settings} (h : s.comment = some "\n") :
    ∃ fault, s.accept = .error fault := by
  cases haccept : s.accept with
  | error fault => exact ⟨fault, rfl⟩
  | ok p =>
      rw [← accept_eq_ok_iff.mp haccept] at h
      exact absurd h p.comment_ne_newline

end Policy

namespace Cursor

/-! ### Offsets -/

theorem offset_add_length_rest (c : Cursor) : c.offset + c.rest.length = c.text.length := by
  simp [offset, text]

theorem offset_le_length_text (c : Cursor) : c.offset ≤ c.text.length := by
  have h := c.offset_add_length_rest
  omega

/-- A cursor that has fewer characters left of the same text stands further on. -/
theorem offset_lt_offset {c c' : Cursor} (htext : c'.text = c.text)
    (h : c'.rest.length < c.rest.length) : c.offset < c'.offset := by
  have hsum := c.offset_add_length_rest
  have hsum' := c'.offset_add_length_rest
  rw [htext] at hsum'
  omega

theorem offset_skip {c : Cursor} {n : Nat} (h : n ≤ c.rest.length) :
    (c.skip n).offset = c.offset + n := by
  have hsum := c.offset_add_length_rest
  have hsum' := (c.skip n).offset_add_length_rest
  rw [text_skip, rest_skip, List.length_drop] at hsum'
  omega

theorem skip_skip (c : Cursor) (m n : Nat) : (c.skip m).skip n = c.skip (m + n) := by
  induction m generalizing c with
  | zero => rw [skip_zero, Nat.zero_add]
  | succ m ih => rw [skip_succ, ih, Nat.add_right_comm, skip_succ]

/-! ### Passes of the skipping loop -/

/-- The cursor before the next newline, or at the end of the text. -/
def toLineEnd (c : Cursor) : Cursor := c.skip (c.rest.takeWhile (· ≠ '\n')).length

/-- One pass of the loop that skips blanks, comments and continuations, under any settings. The
loop ends where there is no further pass. -/
def pass? (s : Policy.Settings) (c : Cursor) : Option Cursor :=
  match c.rest with
  | [] => none
  | x :: rest =>
    if s.blanks.toList.contains x then some (c.skip 1)
    else if s.commentChars = [x] then some c.toLineEnd
    else if s.continuation ∧ x = '\\' ∧ rest.head? = some '\n' then some (c.skip 2)
    else none

/-- The loop takes a cursor to the place where no further pass is made. -/
inductive Skips (s : Policy.Settings) : Cursor → Cursor → Prop
  | stop {c : Cursor} (h : c.pass? s = none) : Skips s c c
  | pass {c c' last : Cursor} (h : c.pass? s = some c') (later : Skips s c' last) : Skips s c last

/-- A pass takes the cursor further, unless the newline is the comment marker. -/
theorem exists_skip_of_pass? {s : Policy.Settings} {c c' : Cursor} (h : c.pass? s = some c') :
    ∃ n ≤ c.rest.length, c' = c.skip n ∧ (0 < n ∨ s.comment = some "\n") := by
  unfold pass? at h
  split at h
  · cases h
  · next x rest hrest =>
    split at h
    · cases h
      exact ⟨1, by simp [hrest], rfl, Or.inl Nat.one_pos⟩
    · split at h
      · next hmarker =>
        cases h
        refine ⟨_, (List.takeWhile_sublist _).length_le, rfl, ?_⟩
        by_cases hx : x = '\n'
        · right
          rw [hx, Policy.Settings.commentChars] at hmarker
          cases hc : s.comment with
          | none => simp [hc] at hmarker
          | some m =>
              rw [hc, Option.elim_some] at hmarker
              exact congrArg some (String.toList_inj.mp hmarker)
        · left
          simp [hrest, hx]
      · split at h
        · next hcont =>
          cases h
          obtain ⟨tail, rfl⟩ := List.head?_eq_some_iff.mp hcont.2.2
          exact ⟨2, by simp [hrest], rfl, Or.inl Nat.two_pos⟩
        · cases h

section Accepted

variable {p : Policy} {c c' last : Cursor}

theorem offset_lt_of_pass? (h : c.pass? p.settings = some c') : c.offset < c'.offset := by
  obtain ⟨n, hn, rfl, hpos | hnewline⟩ := exists_skip_of_pass? h
  · rw [offset_skip hn]
    omega
  · exact absurd hnewline p.comment_ne_newline

theorem text_of_pass? (h : c.pass? p.settings = some c') : c'.text = c.text := by
  obtain ⟨n, -, rfl, -⟩ := exists_skip_of_pass? h
  exact text_skip c n

/-- Under the settings of a policy the passes take the pieces of a gap. -/
theorem pass?_settings (p : Policy) (c : Cursor) :
    c.pass? p.settings = (Gap.piece? p c.rest).map fun piece => c.skip piece.1.length := by
  cases hrest : c.rest with
  | nil => simp [pass?, hrest, Gap.piece?]
  | cons x rest =>
      have hmarker : p.settings.commentChars = [x] ↔ p.marker = some x :=
        Policy.commentChars_eq_singleton_iff
      simp only [pass?, hrest, Gap.piece?, hmarker]
      split
      · next hmem =>
        have hblank : p.isBlank x = true := hmem
        rw [if_pos hblank, Option.map_some, List.length_singleton]
      · next hmem =>
        have hblank : ¬p.isBlank x = true := hmem
        rw [if_neg hblank]
        split
        · next hcomment =>
          have hne : x ≠ '\n' := by
            rintro rfl
            exact p.marker_ne_newline hcomment
          simp [toLineEnd, hrest, hne]
        · split
          · next hcont =>
            obtain ⟨tail, rfl⟩ := List.head?_eq_some_iff.mp hcont.2.2
            simp [hcont.1, hcont.2.1]
          · next hcont =>
            split
            · next hother =>
              split
              · simp [hother] at hcont
              · rfl
            · rfl

/-- The loop ends behind the gap that stands at the cursor. -/
theorem skips_split (p : Policy) (c : Cursor) :
    Skips p.settings c (c.skip (Gap.split p c.rest).1.length) := by
  obtain ⟨text, htext⟩ : ∃ text, c.rest = text := ⟨_, rfl⟩
  rw [htext]
  fun_induction Gap.split p text generalizing c with
  | case1 text hnone =>
      apply Skips.stop
      rw [pass?_settings, htext, hnone, Option.map_none]
  | case2 text piece rest hsome ih =>
      have hpass : c.pass? p.settings = some (c.skip piece.length) := by
        rw [pass?_settings, htext, hsome, Option.map_some]
      have hrest : (c.skip piece.length).rest = rest := by
        rw [rest_skip, htext, ← Gap.piece?_append hsome, List.drop_left]
      have hlater := ih (c.skip piece.length) hrest
      rw [skip_skip, ← List.length_append] at hlater
      exact Skips.pass hpass hlater

end Accepted

/-! ### Tokens behind the loop -/

/-- The token that starts right at a cursor, and the cursor behind it. -/
def readToken (p : Policy) (c : Cursor) : Token × Cursor :=
  match c.rest with
  | [] => (.endAt c.position, c)
  | x :: rest =>
    let lexeme := (Lexeme.read p x rest).1
    (lexeme.token c.position, c.skip lexeme.spelling.length)

variable (p : Policy) (c : Cursor)

/-- Whatever stands at a cursor, a token is read from at least one character. -/
theorem offset_lt_readToken (h : c.rest ≠ []) : c.offset < (c.readToken p).2.offset := by
  obtain ⟨x, rest, hrest⟩ := List.exists_cons_of_ne_nil h
  have hpos := List.length_pos_iff.mpr (Lexeme.spelling_read_ne_nil p x rest)
  have happend := congrArg List.length (Lexeme.read_append p x rest)
  rw [List.length_append] at happend
  rw [readToken, hrest]
  dsimp only
  rw [offset_skip (by rw [hrest]; omega)]
  omega

/-- The next token at a cursor is the one that starts where the loop ends. -/
theorem nextToken_eq_readToken :
    c.nextToken p = (c.skip (Gap.split p c.rest).1.length).readToken p := by
  have hrest : (c.skip (Gap.split p c.rest).1.length).rest = (Gap.split p c.rest).2 := by
    have happend := Gap.split_append p c.rest
    rw [rest_skip]
    nth_rewrite 2 [← happend]
    rw [List.drop_left]
  unfold readToken
  split
  · next hnil =>
    have hsplit : (Gap.split p c.rest).2 = [] := hrest.symm.trans hnil
    have hwhole := Gap.split_append p c.rest
    rw [hsplit, List.append_nil] at hwhole
    rw [nextToken, Reading.next?_eq_none_iff.mpr hsplit, hwhole]
  · next x rest hcons =>
    rw [nextToken, Reading.next?_of_split_eq_cons (hrest.symm.trans hcons)]

theorem text_nextToken : (c.nextToken p).2.text = c.text := by
  unfold nextToken
  split
  · exact text_skip c _
  · rw [text_skip, text_skip]

/-- Every token but the end token takes the cursor further. -/
theorem offset_lt_nextToken (h : (c.nextToken p).1.isEnd = false) :
    c.offset < (c.nextToken p).2.offset :=
  offset_lt_offset (c.text_nextToken p) (length_nextToken_lt h)

end Cursor

/-! ### Requests -/

namespace TokenStream

/-- A sequence that has handed out its end token has stopped. -/
theorem next?_of_next?_eq_end {s s' : TokenStream} {t : Token} (h : s.next? = some (t, s'))
    (ht : t.isEnd = true) : s'.next? = none := by
  unfold next? at h
  split at h
  · cases h
  · cases h
    rw [next?, if_pos ht]

/-- A list of what a stream has left is made of the answers to single requests. -/
theorem repeats_toList (s : TokenStream) :
    Tape.Repeats next? s s.toList.1 s.toList.2 := by
  fun_induction toList s with
  | case1 s hnone => exact Tape.Repeats.stop hnone
  | case2 s t s' hsome hend =>
      apply Tape.Repeats.step hsome
      exact Tape.Repeats.stop (next?_of_next?_eq_end hsome hend)
  | case3 s t s' hsome hend later last hlater ih =>
      rw [hlater] at ih
      exact Tape.Repeats.step hsome ih

theorem value_drain_ofText (p : Policy) (text : List Char) :
    (ofText p text).drain.1.value = .ok (tokens p text) := by
  rw [drain_ofText]

end TokenStream

/-- A text has no more tokens than characters. -/
theorem length_tokensFrom_le (p : Policy) (start : Position) (text : List Char) :
    (tokensFrom p start text).length ≤ text.length := by
  fun_induction readings p text generalizing start with
  | case1 text hnone =>
      rw [tokensFrom_of_next?_eq_none hnone]
      exact Nat.zero_le _
  | case2 text r hsome ih =>
      have hshorter := Reading.length_next?_lt hsome
      have hlater := ih (r.lexemeEnd start)
      rw [tokensFrom_of_next?_eq_some hsome, List.length_cons]
      omega

/-- The scan of a text goes on until it ends. -/
structure ScanEnds (p : Policy) (text : List Char) : Prop where
  /-- Every pass of the skipping loop takes the cursor further. -/
  pass : ∀ c c' : Cursor, c.text = text → c.pass? p.settings = some c' →
    c'.text = text ∧ c.offset < c'.offset ∧ c'.offset ≤ text.length
  /-- The loop ends at every cursor, and the token is read where it ends. -/
  loop : ∀ c : Cursor, c.text = text →
    ∃ last, Cursor.Skips p.settings c last ∧ c.nextToken p = last.readToken p
  /-- Where the text has not ended, a token is read from at least one character. -/
  lexeme : ∀ c : Cursor, c.text = text → c.offset < text.length →
    c.offset < (c.readToken p).2.offset
  /-- Every token but the end token takes the cursor further, and none beyond the end. -/
  token : ∀ c : Cursor, c.text = text →
    (c.nextToken p).2.text = text ∧ (c.nextToken p).2.offset ≤ text.length ∧
      ((c.nextToken p).1.isEnd = false → c.offset < (c.nextToken p).2.offset)
  /-- The sequence of the tokens stops after one request for each token of the text and one for
  the end token. -/
  requests : ∃ last t, t.isEnd = true ∧
    Tape.Repeats TokenStream.next? (.ofText p text) (tokens p text ++ [t]) last ∧
    (tokens p text ++ [t]).length ≤ text.length + 1
  /-- The tokens are read to their end without a failure. -/
  drained : (TokenStream.ofText p text).drain.1.value = .ok (tokens p text)
  length_le : (tokens p text).length ≤ text.length

theorem scanEnds (p : Policy) (text : List Char) : ScanEnds p text where
  pass := by
    rintro c c' rfl hpass
    have htext := Cursor.text_of_pass? hpass
    have hle := c'.offset_le_length_text
    rw [htext] at hle
    exact ⟨htext, Cursor.offset_lt_of_pass? hpass, hle⟩
  loop := fun c _ => ⟨_, Cursor.skips_split p c, c.nextToken_eq_readToken p⟩
  lexeme := by
    rintro c rfl hlt
    have hsum := c.offset_add_length_rest
    exact c.offset_lt_readToken p (List.ne_nil_of_length_pos (by omega))
  token := by
    rintro c rfl
    have htext := c.text_nextToken p
    have hle := (c.nextToken p).2.offset_le_length_text
    rw [htext] at hle
    exact ⟨htext, hle, c.offset_lt_nextToken p⟩
  requests := by
    have hrepeats := TokenStream.repeats_toList (.ofText p text)
    rw [TokenStream.toList_ofText] at hrepeats
    refine ⟨_, _, rfl, hrepeats, ?_⟩
    rw [List.length_append, List.length_singleton]
    exact Nat.succ_le_succ (length_tokensFrom_le p .start text)
  drained := TokenStream.value_drain_ofText p text
  length_le := length_tokensFrom_le p .start text

/-- Every text is scanned to its end under every policy. Under settings that need not be free of
faults, a pass of the skipping loop takes the cursor further or leaves it where it is, and does the
latter only if a newline is the comment marker, so under settings that are refused. Such a pass
exists. -/
theorem scanEnds_unless_refused (p : Policy) (text : List Char) :
    ScanEnds p text ∧
      (∀ (s : Policy.Settings) (c c' : Cursor), c.pass? s = some c' →
        c.offset < c'.offset ∨
          c' = c ∧ s.comment = some "\n" ∧ ∃ fault, s.accept = .error fault) ∧
      ∃ (s : Policy.Settings) (c : Cursor), c.pass? s = some c := by
  refine ⟨scanEnds p text, ?_, { comment := some "\n" }, .ofText ['\n'] 1, by decide⟩
  intro s c c' hpass
  obtain ⟨n, hn, rfl, hmoves⟩ := Cursor.exists_skip_of_pass? hpass
  rcases Nat.eq_zero_or_pos n with rfl | hpos
  · have hnewline := hmoves.resolve_left (Nat.lt_irrefl 0)
    exact Or.inr ⟨rfl, hnewline, Policy.Settings.exists_accept_eq_error hnewline⟩
  · left
    rw [Cursor.offset_skip hn]
    exact Nat.lt_add_of_pos_right hpos

end UnitScan

import UnitScan.Proofs.LineLocality
import UnitScan.Proofs.ScanParts

/-!
# Open comments

When a text goes on behind a boundary of lexemes, a scan passes the parts of the text and then the
parts of what follows. There is one exception: a comment that is open at the end of the text also
swallows what follows, up to the next newline. A comment is open only where its marker stands on
the last line of the text. In turn, where a scan goes on with something other than a newline, no
marker stands before it on its line, as long as lexemes cannot contain the marker.
-/

namespace UnitScan

/-- Whether the last part of a text is a comment. Nothing has ended this comment, so it goes on
with whatever follows the text on the same line. -/
def CommentOpen (p : Policy) (text : List Char) : Prop :=
  ∃ m body, p.marker = some m ∧ (parts p text).getLast? = some (.piece (m :: body))

variable {p : Policy} {text rest more : List Char} {part : Part}

/-! ### Texts that go on behind a boundary -/

/-- The first part of a text stays the first part when the text goes on behind a boundary, if it is
not the last part. The last part must neither be a comment nor become a continuation. -/
theorem Part.next?_append_boundary (h : next? p text = some (part, rest))
    (hmore : ∀ x ∈ more.head?, p.Boundary x)
    (hcomment : rest = [] → ∀ m body, p.marker = some m → part ≠ .piece (m :: body))
    (hjoins : rest = [] → more.head? = some '\n' → ¬p.Joins text) :
    next? p (text ++ more) = some (part, rest ++ more) := by
  rcases next?_cases h with ⟨chars, rfl, rfl, hpiece⟩ | ⟨c, tail, l, rfl, rfl, hend, hread⟩
  · rw [List.append_assoc]
    apply next?_of_piece
    apply hpiece.append
    intro hnil hmarker
    have hne := Gap.piece?_ne_nil (Gap.piece?_of_piece hpiece)
    obtain ⟨m, body, rfl⟩ := List.exists_cons_of_ne_nil hne
    exact absurd rfl (hcomment hnil m body hmarker)
  · rw [List.cons_append]
    apply next?_of_exhausted
    · apply hend.append
      rintro hon rfl rfl x hx rfl
      have hle := Lexeme.length_read_le p '\\' []
      rw [hread] at hle
      have hnil : rest = [] := List.eq_nil_of_length_eq_zero (Nat.le_zero.mp hle)
      exact hjoins hnil hx ⟨hon, rfl⟩
    · rw [Lexeme.read_append_boundary hmore, hread]

theorem CommentOpen.of_next? (h : Part.next? p text = some (part, rest))
    (hopen : CommentOpen p rest) : CommentOpen p text := by
  obtain ⟨m, body, hm, hlast⟩ := hopen
  refine ⟨m, body, hm, ?_⟩
  rw [parts_of_next?_eq_some h, List.getLast?_cons, hlast, Option.getD_some]

/-- The earlier parts of a text stay what they are when the text goes on behind a boundary. If they
are all of its parts, no comment may be open and no continuation may come about. -/
theorem parts_append_of_eq_append {before later : List Part} (h : parts p text = before ++ later)
    (hmore : ∀ x ∈ more.head?, p.Boundary x) (hopen : later = [] → ¬CommentOpen p text)
    (hjoins : later = [] → more.head? = some '\n' → ¬p.Joins text) :
    parts p (text ++ more) = before ++ parts p (Part.spellAll later ++ more) := by
  induction before generalizing text with
  | nil =>
      have htext := spellAll_parts p text
      rw [h, List.nil_append] at htext
      rw [htext, List.nil_append]
  | cons part before ih =>
      rw [List.cons_append] at h ⊢
      have hsome := next?_of_parts_eq_cons h
      have htext := Part.next?_append hsome
      have hlater : parts p (Part.spellAll (before ++ later)) = before ++ later := by
        rw [parts_of_next?_eq_some hsome] at h
        exact (List.cons.inj h).2
      have hnil : Part.spellAll (before ++ later) = [] → before ++ later = [] := by
        intro hspell
        rw [← hlater, hspell, parts_nil]
      have hcomment : Part.spellAll (before ++ later) = [] →
          ∀ m body, p.marker = some m → part ≠ .piece (m :: body) := by
        rintro hspell m body hm rfl
        have hlast := hnil hspell
        apply hopen (List.append_eq_nil_iff.mp hlast).2
        exact ⟨m, body, hm, by rw [h, hlast, List.getLast?_singleton]⟩
      have hnext := Part.next?_append_boundary hsome hmore hcomment fun hspell =>
        hjoins (List.append_eq_nil_iff.mp (hnil hspell)).2
      rw [parts_of_next?_eq_some hnext, ih hlater]
      · intro hend
        exact mt (CommentOpen.of_next? hsome) (hopen hend)
      · intro hend hnewline
        apply Policy.not_joins_of_append
        rw [htext]
        exact hjoins hend hnewline

/-- Where no comment is open and no continuation comes about, a text that goes on behind a boundary
has its own parts and then the parts of what follows. -/
theorem parts_append (hmore : ∀ x ∈ more.head?, p.Boundary x) (hopen : ¬CommentOpen p text)
    (hjoins : more.head? = some '\n' → ¬p.Joins text) :
    parts p (text ++ more) = parts p text ++ parts p more := by
  have hall : parts p text = parts p text ++ [] := (List.append_nil _).symm
  exact parts_append_of_eq_append hall hmore (fun _ => hopen) fun _ => hjoins

theorem lexemes_append (hmore : ∀ x ∈ more.head?, p.Boundary x) (hopen : ¬CommentOpen p text)
    (hjoins : more.head? = some '\n' → ¬p.Joins text) :
    lexemes p (text ++ more) = lexemes p text ++ lexemes p more := by
  simp only [← filterMap_parts, parts_append hmore hopen hjoins, List.filterMap_append]

theorem lexemes_append_cons {x : Char} (hx : p.Boundary x) (hne : '\n' ≠ x)
    (hopen : ¬CommentOpen p text) (more : List Char) :
    lexemes p (text ++ x :: more) = lexemes p text ++ lexemes p (x :: more) := by
  apply lexemes_append (hx.head?_cons more) hopen
  rintro ⟨⟩
  exact absurd rfl hne

/-! ### Comments up to the end of the line -/

/-- A comment is skipped up to the next newline. -/
theorem lexemes_of_marker {m : Char} (hm : p.marker = some m) (line : List Char) :
    lexemes p (m :: line) = lexemes p (line.dropWhile (· ≠ '\n')) := by
  have hpiece : Gap.piece? p (m :: line) =
      some (m :: line.takeWhile (· ≠ '\n'), line.dropWhile (· ≠ '\n')) := by
    simp [Gap.piece?, p.isBlank_of_marker hm, hm]
  have hnext : Part.next? p (m :: line) =
      some (.piece (m :: line.takeWhile (· ≠ '\n')), line.dropWhile (· ≠ '\n')) := by
    simp only [Part.next?, hpiece]
  exact lexemes_of_first hnext

/-- A comment that is open at the end of a text is its last part and has no newline. -/
theorem CommentOpen.exists_parts_eq (h : CommentOpen p text) :
    ∃ before m body, p.marker = some m ∧ '\n' ∉ body ∧
      parts p text = before ++ [.piece (m :: body)] := by
  obtain ⟨m, body, hm, hlast⟩ := h
  obtain ⟨before, hparts⟩ := List.getLast?_eq_some_iff.mp hlast
  refine ⟨before, m, body, hm, ?_, hparts⟩
  have hsome := next?_of_parts_eq_cons (parts_of_eq_append hparts)
  rcases Part.next?_cases hsome with ⟨chars, hpart, -, hpiece⟩ | ⟨_, _, l, hpart, -⟩
  · cases hpart
    exact (hpiece.of_marker hm).1
  · cases hpart

/-- A comment that is open at the end of a text goes on up to the next newline behind it. -/
theorem CommentOpen.lexemes_append (h : CommentOpen p text)
    (hmore : ∀ x ∈ more.head?, p.Boundary x) :
    lexemes p (text ++ more) = lexemes p text ++ lexemes p (more.dropWhile (· ≠ '\n')) := by
  obtain ⟨before, m, body, hm, hbody, hparts⟩ := h.exists_parts_eq
  have hne : [Part.piece (m :: body)] ≠ [] := List.cons_ne_nil _ _
  have hall := parts_append_of_eq_append hparts hmore (fun hnil => absurd hnil hne)
    fun hnil => absurd hnil hne
  have hspell : Part.spellAll [.piece (m :: body)] ++ more = m :: (body ++ more) := by
    simp [Part.spelling]
  have hwhole : lexemes p text = before.filterMap Part.lexeme? := by
    rw [← filterMap_parts, hparts, List.filterMap_append]
    exact List.append_nil _
  calc
    lexemes p (text ++ more)
        = before.filterMap Part.lexeme? ++ lexemes p (m :: (body ++ more)) := by
      rw [← filterMap_parts, hall, hspell, List.filterMap_append, filterMap_parts]
    _ = lexemes p text ++ lexemes p (more.dropWhile (· ≠ '\n')) := by
      rw [hwhole, lexemes_of_marker hm, List.dropWhile_append_of_pos (decide_ne_of_notMem hbody)]

/-! ### Where a comment is open -/

/-- A comment is open at the end of a text only if its marker stands on the last line. -/
theorem not_commentOpen (h : ∀ m, p.marker = some m → m ∉ Text.lastLine text) :
    ¬CommentOpen p text := by
  intro hopen
  obtain ⟨before, m, body, hm, hbody, hparts⟩ := hopen.exists_parts_eq
  have hnewline := List.not_mem_cons_of_ne_of_not_mem (Policy.newline_ne_of_marker hm) hbody
  have htext : Part.spellAll before ++ m :: body = text := by
    rw [← spellAll_parts p text, hparts, Part.spellAll_append]
    simp [Part.spelling]
  apply h m hm
  rw [← htext, Text.lastLine_append_of_notMem hnewline]
  simp

/-- A part that something other than a newline follows ends in a newline, or it contains neither a
newline nor the comment marker. The marker must be a boundary, so that no lexeme goes on with it. -/
theorem Part.spelling_next?_of_head? {m : Char} (hm : p.marker = some m) (hboundary : p.Boundary m)
    (h : next? p text = some (part, rest)) {x : Char} (hx : rest.head? = some x)
    (hne : x ≠ '\n') :
    (∃ chars, part.spelling = chars ++ ['\n']) ∨ '\n' ∉ part.spelling ∧ m ∉ part.spelling := by
  rcases next?_cases h with ⟨chars, rfl, rfl, hpiece⟩ | ⟨c, tail, l, rfl, rfl, hend, hread⟩
  · cases hpiece with
    | @blank c _ hblank =>
        have hnewline := Policy.ne_of_isBlank hblank p.isBlank_newline
        have hmarker := Policy.ne_of_isBlank hblank (Policy.isBlank_of_marker hm)
        right
        constructor
        · exact mt List.mem_singleton.mp hnewline
        · exact mt List.mem_singleton.mp hmarker
    | comment _ _ _ hstop => exact absurd (hstop x hx) hne
    | continuation =>
        left
        exact ⟨['\\'], rfl⟩
  · have hspelling : (lexeme l).spelling = (Lexeme.read p c tail).1.spelling := by
      rw [hread]
      rfl
    rw [hspelling]
    by_cases hc : c = '\n'
    · subst hc
      left
      rw [Lexeme.read_newline]
      exact ⟨[], rfl⟩
    · have hmarker : m ≠ c := by
        rintro rfl
        exact Gap.not_marker_of_exhausted hend hm
      right
      constructor
      · exact Lexeme.notMem_spelling_read p.boundary_newline (Ne.symm hc) tail
      · exact Lexeme.notMem_spelling_read hboundary hmarker tail

/-- Where a part starts with something other than a newline, no comment marker stands before it on
the same line: the comment would have gone on. The marker must be a boundary. -/
theorem marker_notMem_lastLine {m : Char} (hm : p.marker = some m) (hboundary : p.Boundary m)
    {before later : List Part} (h : parts p text = before ++ later) {x : Char}
    (hx : (Part.spellAll later).head? = some x) (hne : x ≠ '\n') :
    m ∉ Text.lastLine (Part.spellAll before) := by
  induction before using List.reverseRecOn generalizing later x with
  | nil => exact List.not_mem_nil
  | append_singleton before part ih =>
      rw [List.append_assoc, List.singleton_append] at h
      have hnext := next?_of_parts_eq_cons (parts_of_eq_append h)
      have hspell : Part.spellAll (before ++ [part]) = Part.spellAll before ++ part.spelling := by
        rw [Part.spellAll_append, Part.spellAll_cons, Part.spellAll_nil, List.append_nil]
      rw [hspell]
      rcases Part.spelling_next?_of_head? hm hboundary hnext hx hne with
        ⟨chars, hchars⟩ | ⟨hnewline, hmarker⟩
      · rw [hchars, ← List.append_assoc, Text.lastLine_append_newline]
        exact List.not_mem_nil
      · obtain ⟨y, chars, hchars⟩ := List.exists_cons_of_ne_nil (Part.spelling_next?_ne_nil hnext)
        have hfirst : (Part.spellAll (part :: later)).head? = some y := by
          rw [Part.spellAll_cons, hchars]
          rfl
        have hy : y ≠ '\n' := by
          rintro rfl
          apply hnewline
          rw [hchars]
          exact List.mem_cons_self
        rw [Text.lastLine_append_of_notMem hnewline, List.mem_append, not_or]
        exact ⟨ih h hfirst hy, hmarker⟩

end UnitScan

import UnitScan.Proofs.Readings

/-!
# Spelled lexemes are read back

A lexeme can be found in some text when it is allowed or a stray character, and no gap begins
with its first character. Such lexemes are read back from a text that spells them one after the
other, if each of them is followed by a gap, perhaps an empty one, that ends it.
-/

namespace UnitScan.Lexeme

variable {p : Policy} {l : Lexeme}

/-- No gap begins with the first character of a lexeme, unless it is a continuation. -/
def Fresh (p : Policy) (l : Lexeme) : Prop :=
  ∀ c ∈ l.spelling.head?, p.isBlank c = false ∧ p.marker ≠ some c

/-- A lexeme that a scan may come upon. -/
structure Realizable (p : Policy) (l : Lexeme) : Prop where
  recognised : l.Allowed p ∨ ∃ c, l = stray c ∧ StartsNone p c
  fresh : l.Fresh p

/-- A text right behind a lexeme neither goes on with it nor makes a continuation of it. -/
def Delimits (p : Policy) (l : Lexeme) (rest : List Char) : Prop :=
  ∀ x ∈ rest.head?, l.endsBefore p x = true ∧ (l.spelling = ['\\'] → x ≠ '\n')

theorem realizable_of_mem_lexemes {text : List Char} (h : l ∈ lexemes p text) :
    l.Realizable p := by
  obtain ⟨r, hr, rfl⟩ := List.mem_map.mp h
  obtain ⟨_, _, _, hnext⟩ := exists_next?_of_mem_readings hr
  have hend := Reading.exhausted_of_next?_eq_some hnext
  refine ⟨allowed_or_stray_of_mem_readings hr, ?_⟩
  intro c hc
  obtain ⟨cs, hcs⟩ := List.head?_eq_some_iff.mp hc
  rw [hcs, List.cons_append] at hend
  exact ⟨Gap.not_blank_of_exhausted hend, Gap.not_marker_of_exhausted hend⟩

/-- No lexeme of more than one character that starts with a backslash goes on with a newline.
Only an identifier can start so, and the newline continues no identifier. -/
theorem Realizable.ne_newline (h : l.Realizable p) {x : Char} {cs : List Char}
    (hspelling : l.spelling = '\\' :: x :: cs) : x ≠ '\n' := by
  rintro rfl
  rcases h.recognised with hallowed | ⟨c, rfl, -⟩
  · cases hallowed with
    | newline => cases hspelling
    | operator o => cases o <;> cases hspelling
    | @number n hn =>
        obtain ⟨d, ds, hds, hd⟩ := hn.spelling_eq_cons
        obtain ⟨rfl, -⟩ := List.cons.inj (hds.symm.trans hspelling)
        cases hd
    | @ident d name _ hname =>
        obtain ⟨-, rfl⟩ := List.cons.inj hspelling
        have hcontinues := hname '\n' List.mem_cons_self
        rw [p.continuesIdent_newline] at hcontinues
        cases hcontinues
  · cases hspelling

/-- A lexeme starts with a character from which it is read back where it is ended. -/
theorem Realizable.exists_read (h : l.Realizable p) {rest : List Char}
    (hrest : ∀ x ∈ rest.head?, l.endsBefore p x = true) :
    ∃ c cs, l.spelling = c :: cs ∧ read p c (cs ++ rest) = (l, rest) := by
  rcases h.recognised with hallowed | ⟨c, rfl, hnone⟩
  · obtain ⟨c, cs, hspelling, _⟩ := hallowed.spelling_eq_cons
    exact ⟨c, cs, hspelling, read_of_spelling hallowed hspelling hrest⟩
  · exact ⟨c, [], rfl, read_of_startsNone hnone rest⟩

/-- A spelled lexeme is the first step of a scan. -/
theorem Realizable.next?_spelling_append (h : l.Realizable p) {rest : List Char}
    (hrest : l.Delimits p rest) :
    Reading.next? p (l.spelling ++ rest) = some ⟨[], l, rest⟩ := by
  obtain ⟨c, cs, hspelling, hread⟩ := h.exists_read fun x hx => (hrest x hx).1
  obtain ⟨hblank, hmarker⟩ := h.fresh c (by simp [hspelling])
  apply Reading.next?_eq_some_iff.mpr
  refine ⟨c, cs ++ rest, ?_, hread⟩
  rw [hspelling, List.cons_append]
  apply Gap.split_of_piece?_eq_none
  apply Gap.piece?_eq_none_iff.mpr
  apply Gap.exhausted_of_ne_continuation hblank hmarker
  rintro - rfl
  cases cs with
  | nil => exact fun x hx => (hrest x hx).2 hspelling
  | cons y cs =>
      rintro x ⟨⟩
      exact h.ne_newline hspelling

/-- Lexemes that are spelled one after the other are read back, whatever gaps end them. -/
theorem lexemes_flatMap {gap : Lexeme → List Char} (ls : List Lexeme)
    (hls : ∀ l ∈ ls, l.Realizable p)
    (hgap : ∀ l ∈ ls, ∀ rest, Gap.IsGap p (gap l) rest ∧ l.Delimits p (gap l ++ rest)) :
    lexemes p (ls.flatMap fun l => l.spelling ++ gap l) = ls := by
  induction ls with
  | nil => exact lexemes_nil p
  | cons l ls ih =>
      obtain ⟨hisGap, hdelimits⟩ :=
        hgap l List.mem_cons_self (ls.flatMap fun l => l.spelling ++ gap l)
      have hnext := (hls l List.mem_cons_self).next?_spelling_append hdelimits
      have hlater := ih (fun m hm => hls m (List.mem_cons_of_mem _ hm))
        fun m hm => hgap m (List.mem_cons_of_mem _ hm)
      rw [List.flatMap_cons, List.append_assoc, lexemes_of_next?_eq_some hnext,
        lexemes_append_of_isGap hisGap, hlater]

/-! ### Spaces between lexemes -/

section Space

variable (hspace : p.isBlank ' ' = true)

include hspace

theorem isGap_space (rest : List Char) : Gap.IsGap p [' '] rest :=
  Gap.IsGap.cons (Gap.Piece.blank hspace) Gap.IsGap.nil

/-- A space that is skipped between tokens ends every lexeme. -/
theorem delimits_space (l : Lexeme) (rest : List Char) : l.Delimits p (' ' :: rest) := by
  have hcontinues : p.continuesIdent ' ' = false :=
    Policy.continuesIdent_of_isBlank hspace (by decide) (by decide)
  rintro x ⟨⟩
  refine ⟨?_, fun _ => by decide⟩
  cases l with
  | ident _ => simp [endsBefore, hcontinues]
  | number _ => rfl
  | _ => rfl

/-- Lexemes that are spelled with a space after each of them are read back. -/
theorem lexemes_flatMap_space (ls : List Lexeme) (hls : ∀ l ∈ ls, l.Realizable p) :
    lexemes p (ls.flatMap fun l => l.spelling ++ [' ']) = ls := by
  apply lexemes_flatMap ls hls
  intro l _ rest
  exact ⟨isGap_space hspace rest, delimits_space hspace l rest⟩

end Space

end UnitScan.Lexeme

import UnitScan.Gap
import UnitScan.Proofs.CharacterClasses

/-!
# The grammar of gaps

A gap is a run of pieces, and whether something is a piece depends on what follows it: a comment
ends immediately before a newline or at the end of the text. The grammar is given here without
mentioning how a text is split; `split_eq_iff` says that splitting takes the one gap that is
followed by no further piece. The last section says when pieces and gaps stay what they are in a
text that goes on.
-/

namespace UnitScan.Gap

/-- The pieces of a gap, each with what follows it. A character that could be more than one is
a blank before it opens a comment, and opens a comment before it is part of a continuation. -/
inductive Piece (p : Policy) : List Char → List Char → Prop
  | blank {c : Char} {rest : List Char} (h : p.isBlank c = true) : Piece p [c] rest
  | comment {c : Char} {body rest : List Char} (blank : p.isBlank c = false)
      (marker : p.marker = some c) (line : '\n' ∉ body) (stop : ∀ x ∈ rest.head?, x = '\n') :
      Piece p (c :: body) rest
  | continuation {rest : List Char} (blank : p.isBlank '\\' = false)
      (marker : p.marker ≠ some '\\') (h : p.settings.continuation = true) :
      Piece p ['\\', '\n'] rest

/-- The gaps, each with what follows it: every piece stands before the later pieces and all
that follows the gap. -/
inductive IsGap (p : Policy) : List Char → List Char → Prop
  | nil {rest : List Char} : IsGap p [] rest
  | cons {piece gap rest : List Char} (head : Piece p piece (gap ++ rest))
      (tail : IsGap p gap rest) : IsGap p (piece ++ gap) rest

/-- No piece of a gap stands at the front of a text. -/
def Exhausted (p : Policy) (text : List Char) : Prop :=
  ∀ piece rest, text = piece ++ rest → ¬Piece p piece rest

/-! ### Single pieces -/

theorem piece_of_piece? {p : Policy} {text piece rest : List Char}
    (h : piece? p text = some (piece, rest)) : Piece p piece rest := by
  revert h
  fun_cases piece? p text with
  | case2 c tail hblank =>
      rintro ⟨⟩
      exact Piece.blank hblank
  | case3 c tail hblank hmarker =>
      rintro ⟨⟩
      apply Piece.comment (Bool.eq_false_iff.mpr hblank) hmarker
      · intro hmem
        have hne := List.mem_takeWhile_imp hmem
        exact of_decide_eq_true hne rfl
      · intro x hx
        have hnot := stop_dropWhile x hx
        exact not_not.mp (of_decide_eq_false hnot)
  | case4 c hblank hmarker hcont tail =>
      obtain ⟨hcont, rfl⟩ := hcont
      rintro ⟨⟩
      exact Piece.continuation (Bool.eq_false_iff.mpr hblank) hmarker hcont
  | _ => simp

theorem piece?_of_piece {p : Policy} {piece rest : List Char} (h : Piece p piece rest) :
    piece? p (piece ++ rest) = some (piece, rest) := by
  cases h with
  | blank h => simp [piece?, h]
  | @comment c body _ hblank hmarker hline hstop =>
      have hbody := decide_ne_of_notMem hline
      have hend : ∀ x ∈ rest.head?, decide (x ≠ '\n') = false := by
        intro x hx
        apply decide_eq_false
        exact not_not_intro (hstop x hx)
      have htake := takeWhile_run_append hbody hend
      have hdrop := dropWhile_run_append hbody hend
      simp only [List.cons_append, piece?, hblank, hmarker, htake, hdrop, if_true,
        Bool.false_eq_true, if_false]
  | continuation hblank hmarker hcont => simp [piece?, hblank, hmarker, hcont]

/-- A piece is taken off the front of a text exactly when it is a piece of the grammar. -/
theorem piece?_eq_some_iff {p : Policy} {text piece rest : List Char} :
    piece? p text = some (piece, rest) ↔ text = piece ++ rest ∧ Piece p piece rest := by
  constructor
  · intro h
    exact ⟨(piece?_append h).symm, piece_of_piece? h⟩
  · rintro ⟨rfl, h⟩
    exact piece?_of_piece h

theorem piece?_eq_none_iff {p : Policy} {text : List Char} :
    piece? p text = none ↔ Exhausted p text := by
  constructor
  · intro h piece rest htext hpiece
    rw [piece?_eq_some_iff.mpr ⟨htext, hpiece⟩] at h
    cases h
  · intro h
    cases hpiece : piece? p text with
    | none => rfl
    | some found =>
        obtain ⟨htext, hgrammar⟩ := piece?_eq_some_iff.mp hpiece
        exact absurd hgrammar (h found.1 found.2 htext)

/-- A piece that starts with the comment marker is a comment. -/
theorem Piece.of_marker {p : Policy} {m : Char} {body rest : List Char}
    (h : Piece p (m :: body) rest) (hm : p.marker = some m) :
    '\n' ∉ body ∧ ∀ x ∈ rest.head?, x = '\n' := by
  cases h with
  | blank hblank =>
      rw [Policy.isBlank_of_marker hm] at hblank
      cases hblank
  | comment _ _ hline hstop => exact ⟨hline, hstop⟩
  | continuation _ hmarker _ => exact absurd hm hmarker

theorem not_blank_of_exhausted {p : Policy} {c : Char} {rest : List Char}
    (h : Exhausted p (c :: rest)) : p.isBlank c = false := by
  rw [Bool.eq_false_iff]
  intro hblank
  exact h [c] rest rfl (Piece.blank hblank)

theorem not_marker_of_exhausted {p : Policy} {c : Char} {rest : List Char}
    (h : Exhausted p (c :: rest)) : p.marker ≠ some c := by
  intro hmarker
  have hnone := piece?_eq_none_iff.mpr h
  simp [piece?, not_blank_of_exhausted h, hmarker] at hnone

theorem not_continuation_of_exhausted {p : Policy} {rest : List Char}
    (h : Exhausted p ('\\' :: rest)) (hon : p.settings.continuation = true) :
    ∀ x ∈ rest.head?, x ≠ '\n' := by
  rintro x hx rfl
  obtain ⟨tail, rfl⟩ := List.head?_eq_some_iff.mp hx
  apply h ['\\', '\n'] tail rfl
  exact Piece.continuation (not_blank_of_exhausted h) (not_marker_of_exhausted h) hon

/-- Apart from a continuation, the first character alone tells that no piece of a gap begins. -/
theorem exhausted_of_ne_continuation {p : Policy} {c : Char} {rest : List Char}
    (hblank : p.isBlank c = false) (hmarker : p.marker ≠ some c)
    (hcont : p.settings.continuation = true → c = '\\' → ∀ x ∈ rest.head?, x ≠ '\n') :
    Exhausted p (c :: rest) := by
  intro piece after htext hpiece
  cases hpiece with
  | blank h =>
      obtain ⟨rfl, -⟩ := List.cons.inj htext
      rw [hblank] at h
      cases h
  | comment _ marker _ _ =>
      obtain ⟨rfl, -⟩ := List.cons.inj htext
      exact hmarker marker
  | continuation _ _ hon =>
      obtain ⟨rfl, rfl⟩ := List.cons.inj htext
      exact hcont hon rfl '\n' rfl rfl

/-! ### Whole gaps -/

theorem Piece.isGap {p : Policy} {piece rest : List Char} (h : Piece p piece rest) :
    IsGap p piece rest := by
  have hgap := IsGap.cons h IsGap.nil
  rwa [List.append_nil] at hgap

theorem isGap_split (p : Policy) (text : List Char) :
    IsGap p (split p text).1 (split p text).2 := by
  fun_induction split p text with
  | case1 text h => exact IsGap.nil
  | case2 text piece rest h ih =>
      refine IsGap.cons ?_ ih
      rw [split_append]
      exact piece_of_piece? h

/-- A gap at the front of a text is part of the longest gap there. -/
theorem split_append_of_isGap {p : Policy} {gap rest : List Char} (h : IsGap p gap rest) :
    split p (gap ++ rest) = (gap ++ (split p rest).1, (split p rest).2) := by
  induction h with
  | nil => rfl
  | @cons piece gap rest head tail ih =>
      have hpiece := piece?_of_piece head
      rw [List.append_assoc, split_of_piece?_eq_some hpiece, ih, List.append_assoc]

/-- A text has one division into a gap and a part where no gap begins, and `split` finds it. -/
theorem split_eq_iff {p : Policy} {text gap rest : List Char} :
    split p text = (gap, rest) ↔ text = gap ++ rest ∧ IsGap p gap rest ∧ Exhausted p rest := by
  constructor
  · intro h
    have htext := split_append p text
    have hgap := isGap_split p text
    have hend := piece?_split p text
    rw [h] at htext hgap hend
    exact ⟨htext.symm, hgap, piece?_eq_none_iff.mp hend⟩
  · rintro ⟨rfl, hgap, hend⟩
    rw [split_append_of_isGap hgap, split_of_piece?_eq_none (piece?_eq_none_iff.mpr hend)]
    simp

/-! ### Texts that go on -/

section Append

variable {p : Policy} {piece gap rest more : List Char}

/-- A piece stays a piece when the text goes on. Only a comment at the end of the text must be
followed by a newline. -/
theorem Piece.append (h : Piece p piece rest)
    (hstop : rest = [] → p.marker = piece.head? → ∀ x ∈ more.head?, x = '\n') :
    Piece p piece (rest ++ more) := by
  cases h with
  | blank hblank => exact Piece.blank hblank
  | comment hblank hmarker hline hend =>
      apply Piece.comment hblank hmarker hline
      cases rest with
      | nil => exact hstop rfl hmarker
      | cons c rest => exact hend
  | continuation hblank hmarker hon => exact Piece.continuation hblank hmarker hon

theorem IsGap.append (h : IsGap p gap rest) (hstop : rest = [] → ∀ x ∈ more.head?, x = '\n') :
    IsGap p gap (rest ++ more) := by
  induction h with
  | nil => exact IsGap.nil
  | cons head tail ih =>
      apply IsGap.cons
      · rw [← List.append_assoc]
        apply head.append
        intro hnil _
        exact hstop (List.append_eq_nil_iff.mp hnil).2
      · exact ih hstop

/-- Where a lexeme begins, more text does not make a gap begin, unless it completes a
continuation. -/
theorem Exhausted.append {c : Char} (h : Exhausted p (c :: rest))
    (hjoin : p.settings.continuation = true → c = '\\' → rest = [] →
      ∀ x ∈ more.head?, x ≠ '\n') : Exhausted p (c :: (rest ++ more)) := by
  apply exhausted_of_ne_continuation (not_blank_of_exhausted h) (not_marker_of_exhausted h)
  rintro hon rfl
  cases rest with
  | nil => exact hjoin hon rfl rfl
  | cons d rest =>
      intro x hx
      exact not_continuation_of_exhausted h hon x hx

end Append

end UnitScan.Gap

import UnitScan.Proofs.ConfiguredPolicies
import UnitScan.Proofs.OpenComments

/-!
# Layout between tokens is interchangeable

Blanks and continuations that stand one after the other, however many and in whatever order, can
be replaced by one space. The tokens of the text stay the same, positions aside, as long as the
layout does not stand in a comment.
-/

namespace UnitScan

/-- The pieces of layout: blanks, and the continuation of a line. -/
def Text.layoutPieces : List (List Char) := [[' '], ['\t'], ['\r'], ['\\', '\n']]

/-- A gap that starts with a boundary can be taken out between a text without an open comment and
what follows the gap. -/
theorem lexemes_append_gap {p : Policy} {text gap more : List Char} {x : Char}
    (hopen : ¬CommentOpen p text) (hgap : Gap.IsGap p (x :: gap) more) (hx : p.Boundary x)
    (hne : '\n' ≠ x) : lexemes p (text ++ (x :: gap ++ more)) = lexemes p text ++ lexemes p more := by
  calc
    lexemes p (text ++ (x :: gap ++ more)) = lexemes p text ++ lexemes p (x :: gap ++ more) :=
      lexemes_append_cons hx hne hopen (gap ++ more)
    _ = lexemes p text ++ lexemes p more := by rw [lexemes_append_of_isGap hgap]

namespace Configuration

variable {c : Configuration} {p : Policy} (h : c.policy = .ok p)

include h

/-- A configured policy has the boundaries of the standard one. -/
theorem boundary_of_boundary_standard {x : Char} (hx : Policy.standard.Boundary x) :
    p.Boundary x where
  ident := by
    rw [continuesIdent_eq h]
    exact hx.ident
  number := hx.number
  sign := hx.sign

/-- Every piece of layout is a piece of a gap, whatever follows it, and its first character is a
boundary. -/
theorem piece_of_mem_layoutPieces (hmarker : p.marker ≠ some '\\') {w : List Char}
    (hw : w ∈ Text.layoutPieces) :
    (∀ rest, Gap.Piece p w rest) ∧ ∃ x, w.head? = some x ∧ p.Boundary x ∧ '\n' ≠ x := by
  have hblank : ∀ x, Policy.standard.isBlank x = true → Policy.standard.Boundary x →
      (∀ rest, Gap.Piece p [x] rest) ∧ ∃ y, [x].head? = some y ∧ p.Boundary y ∧ '\n' ≠ y := by
    intro x hx hboundary
    rw [← isBlank_eq h] at hx
    have hne := Policy.ne_of_isBlank hx p.isBlank_newline
    exact ⟨fun _ => .blank hx, x, rfl, boundary_of_boundary_standard h hboundary, hne⟩
  simp only [Text.layoutPieces, List.mem_cons, List.not_mem_nil, or_false] at hw
  rcases hw with rfl | rfl | rfl | rfl
  · exact hblank ' ' (by decide) ⟨by decide, by decide, by decide⟩
  · exact hblank '\t' (by decide) ⟨by decide, by decide, by decide⟩
  · exact hblank '\r' (by decide) ⟨by decide, by decide, by decide⟩
  · constructor
    · intro rest
      apply Gap.Piece.continuation _ hmarker (continuation_eq_true h)
      rw [isBlank_eq h]
      decide
    · have hboundary : Policy.standard.Boundary '\\' := ⟨by decide, by decide, by decide⟩
      exact ⟨'\\', rfl, boundary_of_boundary_standard h hboundary, by decide⟩

theorem isGap_flatten (hmarker : p.marker ≠ some '\\') {ws : List (List Char)}
    (hws : ∀ w ∈ ws, w ∈ Text.layoutPieces) (rest : List Char) : Gap.IsGap p ws.flatten rest := by
  induction ws with
  | nil => exact Gap.IsGap.nil
  | cons w ws ih =>
      rw [List.flatten_cons]
      apply Gap.IsGap.cons
      · exact (piece_of_mem_layoutPieces h hmarker (hws w List.mem_cons_self)).1 _
      · exact ih fun v hv => hws v (List.mem_cons_of_mem w hv)

/-- Layout can be taken out of a text behind which no comment is open, if it is not empty. -/
theorem lexemes_append_layout (hmarker : p.marker ≠ some '\\') {text : List Char}
    (hopen : ¬CommentOpen p text) {ws : List (List Char)} (hne : ws ≠ [])
    (hws : ∀ w ∈ ws, w ∈ Text.layoutPieces) (more : List Char) :
    lexemes p (text ++ (ws.flatten ++ more)) = lexemes p text ++ lexemes p more := by
  obtain ⟨w, later, rfl⟩ := List.exists_cons_of_ne_nil hne
  obtain ⟨-, x, hhead, hboundary, hnewline⟩ :=
    piece_of_mem_layoutPieces h hmarker (hws w List.mem_cons_self)
  have hfirst : (w :: later).flatten.head? = some x := by
    rw [List.flatten_cons, List.head?_append, hhead, Option.some_or]
  obtain ⟨gap, hflatten⟩ := List.head?_eq_some_iff.mp hfirst
  have hgap := isGap_flatten h hmarker hws more
  rw [hflatten] at hgap ⊢
  exact lexemes_append_gap hopen hgap hboundary hnewline

end Configuration

/-- Under a configuration whose comment marker, if there is one, is not a backslash, layout behind a
text can be replaced by one space, whatever follows it. The tokens stay the same, up to their
positions, unless the comment marker stands on the last line before the layout. -/
theorem map_content_tokens_append_layout {c : Configuration} {p : Policy} (h : c.policy = .ok p)
    (hmarker : p.marker ≠ some '\\') (text : List Char)
    (hline : ∀ m, p.marker = some m → m ∉ Text.lastLine text) {ws : List (List Char)}
    (hne : ws ≠ []) (hws : ∀ w ∈ ws, w ∈ Text.layoutPieces) (more : List Char) :
    (tokens p (text ++ (ws.flatten ++ more))).map Token.content =
      (tokens p (text ++ ' ' :: more)).map Token.content := by
  have hopen := not_commentOpen hline
  have hspace : ∀ w ∈ [[' ']], w ∈ Text.layoutPieces := by decide
  have hone := Configuration.lexemes_append_layout h hmarker hopen (List.cons_ne_nil _ _) hspace
    more
  rw [map_content_tokens, map_content_tokens,
    Configuration.lexemes_append_layout h hmarker hopen hne hws more, ← hone]
  rfl

/-- A continuation, blanks and a second continuation behind a stray backslash, a point without
digits and a comment on an earlier line. -/
theorem map_content_tokens_append_layout_standard :
    Configuration.policy {} = .ok Policy.standard ∧ Policy.standard.marker ≠ some '\\' ∧
      (∀ m, Policy.standard.marker = some m → m ∉ Text.lastLine "# x\n3.\\".toList) ∧
      (∀ w ∈ ["\\\n".toList, ['\t'], ['\r'], "\\\n".toList], w ∈ Text.layoutPieces) ∧
      (tokens Policy.standard
          ("# x\n3.\\".toList ++ ("\\\n\t\r\\\n".toList ++ "5".toList))).map Token.content =
        (tokens Policy.standard ("# x\n3.\\".toList ++ ' ' :: "5".toList)).map
          Token.content := by
  have hpolicy : Configuration.policy {} = .ok Policy.standard :=
    Policy.Settings.accept_eq_ok_iff.mpr rfl
  have hmarker : Policy.standard.marker ≠ some '\\' := by decide
  have hline : ∀ m, Policy.standard.marker = some m →
      m ∉ Text.lastLine "# x\n3.\\".toList := by
    rintro m ⟨⟩
    decide
  have hws : ∀ w ∈ ["\\\n".toList, ['\t'], ['\r'], "\\\n".toList], w ∈ Text.layoutPieces := by
    decide
  refine ⟨hpolicy, hmarker, hline, hws, ?_⟩
  exact map_content_tokens_append_layout hpolicy hmarker _ hline (List.cons_ne_nil _ _) hws _

end UnitScan

import UnitScan.Proofs.RenderedText
import UnitScan.Proofs.StrayCharacters

/-!
# Rendered errors are errors again

Rendering writes an error in angle brackets, with a colon behind its first word. None of these three
characters has a part in the standard policy, so a scan of the rendering reports all of them,
whatever stands between the brackets and next to them. Comments could hide them, but a rendering
never opens a comment. So the errors of a text at least triple when the text is rendered.
-/

namespace UnitScan

/-! ### Texts without comment markers -/

theorem Text.mem_of_mem_lastLine {c : Char} {text : List Char} (h : c ∈ lastLine text) :
    c ∈ text := by
  rw [lastLine, List.mem_reverse] at h
  exact List.mem_reverse.mp ((List.takeWhile_prefix _).subset h)

/-- The places of a text that has no comment marker are all outside of comments. -/
theorem outsideComments_of_notMem {p : Policy} {text : List Char} (h : ∀ m ∈ p.marker, m ∉ text)
    (i : Nat) : OutsideComments p text i := by
  intro m hm hmem
  exact h m hm (List.mem_of_mem_take (Text.mem_of_mem_lastLine hmem))

theorem map_getElem?_range (text : List Char) :
    (List.range text.length).map (text[·]?) = text.map some := by
  apply List.ext_getElem
  · simp
  · intro i hi _
    simp at hi
    simp [hi]

/-- A text that has no comment marker has a place for each occurrence of one of the characters. -/
theorem length_strayPlaces {p : Policy} {xs text : List Char} (h : ∀ m ∈ p.marker, m ∉ text) :
    (strayPlaces p xs text 0 text.length).length = text.countP (· ∈ xs) := by
  have houtside := outsideComments_of_notMem h
  calc
    (strayPlaces p xs text 0 text.length).length
        = (List.range text.length).countP fun i => xs.any fun x => text[i]? = some x := by
      simp only [strayPlaces, houtside, decide_true, Bool.and_true, ← List.range_eq_range',
        List.countP_eq_length_filter]
    _ = (text.map some).countP fun c => xs.any fun x => c = some x := by
      rw [← map_getElem?_range, List.countP_map]
      rfl
    _ = text.countP (· ∈ xs) := by
      rw [List.countP_map]
      apply List.countP_congr
      intro c _
      simp

/-! ### Counting errors -/

theorem Token.isError_of_reports {x : Char} {t : Token} (h : t.Reports x) : t.isError = true := by
  rw [h.eq_mk]
  rfl

theorem Token.length_reportPositions_le (xs : List Char) (tokens : List Token) :
    (reportPositions xs tokens).length ≤ errorCount tokens := by
  rw [reportPositions, List.length_map, ← List.countP_eq_length_filter]
  apply List.countP_mono_left
  intro t _ ht
  obtain ⟨x, -, hreports⟩ := List.any_eq_true.mp ht
  exact isError_of_reports (of_decide_eq_true hreports)

/-- A text without a comment marker has an error for each occurrence of one of the characters. -/
theorem countP_le_errorCount {p : Policy} {xs : List Char}
    (hmarker : ∀ m, p.marker = some m → p.Boundary m) (hxs : ∀ x ∈ xs, p.Foreign x)
    {text : List Char} (h : ∀ m ∈ p.marker, m ∉ text) :
    text.countP (· ∈ xs) ≤ Token.errorCount (tokens p text) := by
  calc
    text.countP (· ∈ xs) = (Token.reportPositions xs (tokens p text)).length := by
      rw [reportPositions_tokens hmarker hxs, List.length_map, length_strayPlaces h]
    _ ≤ Token.errorCount (tokens p text) := Token.length_reportPositions_le xs _

theorem Token.errorCount_eq_of_map_content_eq {tokens others : List Token}
    (h : tokens.map content = others.map content) : errorCount tokens = errorCount others := by
  have hcount : ∀ ts : List Token, errorCount ts = (ts.map content).countP (·.1 = .error) := by
    intro ts
    rw [List.countP_map]
    rfl
  rw [hcount, h, hcount]

theorem Token.errorCount_eq_zero_iff {tokens : List Token} :
    errorCount tokens = 0 ↔ ∀ t ∈ tokens, t.isError = false := by
  simp only [errorCount, List.countP_eq_zero, Bool.not_eq_true]

/-! ### What rendering writes -/

/-- The characters that rendering puts around errors. -/
def Token.errorMarks : List Char := ['<', ':', '>']

namespace Token

theorem three_le_countP_render {t : Token} (h : t.isError = true) :
    3 ≤ t.render.toList.countP (· ∈ errorMarks) := by
  have hkind : t.kind = .error := of_decide_eq_true h
  have hopen : "<error: ".toList.countP (· ∈ errorMarks) = 2 := by decide
  have hclose : ">".toList.countP (· ∈ errorMarks) = 1 := by decide
  rw [render, hkind]
  simp only [String.toList_append, List.countP_append, hopen, hclose]
  omega

/-- Every error brings three marks into a rendering. -/
theorem three_mul_errorCount_le (tokens : List Token) :
    3 * errorCount tokens ≤ (renderAll tokens).toList.countP (· ∈ errorMarks) := by
  rw [renderAll, String.toList_join]
  induction tokens with
  | nil => exact Nat.zero_le _
  | cons t tokens ih =>
      rw [List.map_cons, List.flatMap_cons, List.countP_append]
      cases herror : t.isError with
      | true =>
          have hthree := three_le_countP_render herror
          have hcount : errorCount (t :: tokens) = errorCount tokens + 1 :=
            List.countP_cons_of_pos herror
          omega
      | false =>
          have hcount : errorCount (t :: tokens) = errorCount tokens := by
            apply List.countP_cons_of_neg
            rw [herror]
            decide
          omega

end Token

namespace Lexeme

variable {p : Policy} {l : Lexeme} {m : Char}

/-- An allowed lexeme contains no boundary, except for a boundary that it starts with. -/
theorem Allowed.notMem_spelling (h : l.Allowed p) (hm : p.Boundary m)
    (hhead : l.spelling.head? ≠ some m) : m ∉ l.spelling := by
  obtain ⟨c, cs, hspelling, -⟩ := h.spelling_eq_cons
  have hread : read p c (cs ++ []) = (l, []) := read_of_spelling h hspelling (by simp)
  have hne : m ≠ c := by
    rintro rfl
    rw [hspelling] at hhead
    exact hhead rfl
  have hnotMem := notMem_spelling_read hm hne (cs ++ [])
  rwa [hread] at hnotMem

theorem render_stray (x : Char) (pos : Position) :
    ((stray x).token pos).render =
      "<error: " ++ ("unexpected character '" ++ x.toString ++ "'") ++ ">" := rfl

/-- Under the standard policy, rendering a lexeme that a scan comes upon opens no comment. -/
theorem Realizable.hash_notMem_render (h : l.Realizable .standard) (pos : Position) :
    '#' ∉ (l.token pos).render.toList := by
  have hboundary : Policy.standard.Boundary '#' :=
    Configuration.boundary_of_marker Configuration.policy_default rfl
  rcases h.recognised with hallowed | ⟨x, rfl, -⟩
  · have hhead : l.marked.spelling.head? ≠ some '#' := by
      rw [head?_spelling_marked hallowed]
      intro hhash
      exact (h.fresh '#' hhash).2 (by decide)
    have hspelling := hallowed.marked.notMem_spelling hboundary hhead
    rw [toList_render_token hallowed, List.mem_append, not_or]
    refine ⟨hspelling, ?_⟩
    cases l <;> simp [separator]
  · have hx : '#' ≠ x := by
      rintro rfl
      exact (h.fresh '#' rfl).2 (by decide)
    simp [render_stray, hx]

end Lexeme

theorem hash_notMem_renderAll (text : List Char) :
    '#' ∉ (Token.renderAll (tokens .standard text)).toList := by
  rw [Token.renderAll, String.toList_join, List.mem_flatMap]
  rintro ⟨s, hs, hhash⟩
  obtain ⟨t, ht, rfl⟩ := List.mem_map.mp hs
  rw [tokens_eq_map] at ht
  obtain ⟨r, hr, rfl⟩ := List.mem_map.mp ht
  have hrealizable := Lexeme.realizable_of_mem_lexemes (List.mem_map_of_mem hr)
  exact hrealizable.hash_notMem_render _ hhash

/-! ### Scanning what rendering writes -/

/-- A scan of the rendering of a text without errors reads its lexemes again, with small exponent
marks. -/
theorem lexemes_renderAll {p : Policy} (hspace : p.isBlank ' ' = true) {text : List Char}
    (herror : ∀ t ∈ tokens p text, t.isError = false) :
    lexemes p (Token.renderAll (tokens p text)).toList = (lexemes p text).map Lexeme.marked := by
  have hallowed : ∀ l ∈ lexemes p text, l.Allowed p := fun l hl =>
    allowed_of_mem_lexemes herror hl
  rw [toList_renderAll_tokens hallowed]
  apply lexemes_flatMap_spelling hspace
  intro l hl
  obtain ⟨m, hm, rfl⟩ := List.mem_map.mp hl
  have hrendered := Lexeme.rendered_marked (hallowed m hm) (Lexeme.fresh_of_mem_lexemes hm)
  exact ⟨hrendered.allowed, hrendered.fresh⟩

/-- The errors of a text at least triple when the text is rendered. -/
theorem three_mul_errorCount_le_renderAll (text : List Char) :
    3 * Token.errorCount (tokens .standard text) ≤
      Token.errorCount (tokens .standard (Token.renderAll (tokens .standard text)).toList) := by
  have hmarks : ∀ x ∈ Token.errorMarks, Policy.standard.Foreign x := by
    intro x hx
    simp only [Token.errorMarks, List.mem_cons, List.not_mem_nil, or_false] at hx
    rcases hx with rfl | rfl | rfl <;>
      exact Configuration.foreign_of_continuesIdent Configuration.policy_default (by decide)
        (by decide) (by decide) (by decide) (by decide) (by decide)
  refine (Token.three_mul_errorCount_le _).trans (countP_le_errorCount ?_ hmarks ?_)
  · intro m hm
    exact Configuration.boundary_of_marker Configuration.policy_default hm
  · rintro m ⟨⟩
    exact hash_notMem_renderAll text

/-- Under the standard policy, a text with errors has at least three times as many errors when it is
rendered. So the rendering has the tokens of the text, up to their positions, exactly if no token is
an error. -/
theorem errorCount_renderAll (text : List Char) :
    3 * Token.errorCount (tokens .standard text) ≤
        Token.errorCount (tokens .standard (Token.renderAll (tokens .standard text)).toList) ∧
      ((tokens .standard (Token.renderAll (tokens .standard text)).toList).map Token.content =
          (tokens .standard text).map Token.content ↔
        ∀ t ∈ tokens .standard text, t.isError = false) := by
  have hthree := three_mul_errorCount_le_renderAll text
  refine ⟨hthree, ?_, ?_⟩
  · intro heq
    rw [Token.errorCount_eq_of_map_content_eq heq] at hthree
    apply Token.errorCount_eq_zero_iff.mp
    omega
  · intro herror
    have hspace : Policy.standard.isBlank ' ' = true := by decide
    rw [map_content_tokens, lexemes_renderAll hspace herror, List.map_map, map_content_tokens]
    exact List.map_congr_left fun l _ => Lexeme.content_marked l

/-- A point in the quotes of a report is part of a name, so there are no more errors than marks. -/
example : Token.errorCount (tokens .standard ".".toList) = 1 ∧
    Token.errorCount (tokens .standard (Token.renderAll (tokens .standard ".".toList)).toList) =
      3 := by
  decide +kernel

end UnitScan

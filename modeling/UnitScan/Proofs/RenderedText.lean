import UnitScan.Proofs.RenderingRoundTrip

/-!
# Rendered texts

A text is rendered when it spells lexemes as rendering does. Rendering makes such a text of every
text without errors, and a rendered text has no errors and is its own rendering. A newline behind
a rendered text makes a rendered text again. The escape character is in a rendered text only where
the policy has it in identifiers.
-/

namespace UnitScan

namespace Numeral

theorem WellFormed.class_of_mem_spelling {n : Numeral} (h : n.WellFormed) {x : Char}
    (hx : x ∈ n.spelling) :
    x.isDigit = true ∨ x = '.' ∨ Exponent.isMark x = true ∨ Exponent.isSign x = true := by
  obtain ⟨integer, fraction, exponent⟩ := n
  rw [spelling, List.mem_append, List.mem_append] at hx
  rcases hx with (hx | hx) | hx
  · exact Or.inl (h.integer.2 x hx)
  · cases fraction with
    | none => cases hx
    | some f =>
        rcases List.mem_cons.mp hx with hx | hx
        · exact Or.inr (Or.inl hx)
        · exact Or.inl ((h.fraction f rfl).2 x hx)
  · cases exponent with
    | none => cases hx
    | some e =>
        have he := h.exponent e rfl
        rcases List.mem_cons.mp hx with rfl | hx
        · exact Or.inr (Or.inr (Or.inl he.mark))
        · rcases List.mem_append.mp hx with hx | hx
          · exact Or.inr (Or.inr (Or.inr (he.sign x (Option.mem_toList.mp hx))))
          · exact Or.inl (he.digits.2 x hx)

theorem WellFormed.escape_notMem {n : Numeral} (h : n.WellFormed) : '\x1b' ∉ n.spelling := by
  intro hx
  rcases h.class_of_mem_spelling hx with hclass | hclass | hclass | hclass <;> cases hclass

end Numeral

namespace Lexeme

variable {p : Policy} {l : Lexeme}

@[simp] theorem marked_marked (l : Lexeme) : l.marked.marked = l.marked := by
  cases l with
  | number n => simp [marked, Numeral.marked, Function.comp_def]
  | _ => rfl

theorem escape_notMem_separator (l : Lexeme) : '\x1b' ∉ l.separator := by
  cases l <;> simp [separator]

theorem Allowed.escape_notMem (hstart : p.startsIdent '\x1b' = false)
    (hcontinues : p.continuesIdent '\x1b' = false) (h : l.Allowed p) : '\x1b' ∉ l.spelling := by
  cases h with
  | newline => decide
  | @ident c name hc hname =>
      intro hmem
      rcases List.mem_cons.mp hmem with rfl | hmem
      · rw [hstart] at hc
        cases hc
      · rw [hname _ hmem] at hcontinues
        cases hcontinues
  | number hn => exact hn.escape_notMem
  | operator o => cases o <;> decide

/-- A lexeme of a policy as rendering spells it. -/
structure Rendered (p : Policy) (l : Lexeme) : Prop where
  allowed : l.Allowed p
  fresh : l.Fresh p
  marked : l.marked = l

theorem rendered_marked (h : l.Allowed p) (hfresh : l.Fresh p) : l.marked.Rendered p where
  allowed := h.marked
  fresh := hfresh.marked h
  marked := l.marked_marked

theorem rendered_newline (p : Policy) : newline.Rendered p where
  allowed := Allowed.newline
  fresh := by
    rintro c ⟨⟩
    exact ⟨p.isBlank_newline, p.marker_ne_newline⟩
  marked := rfl

end Lexeme

/-- A text that spells lexemes as rendering does. -/
def IsRendered (p : Policy) (text : List Char) : Prop :=
  ∃ ls : List Lexeme, (∀ l ∈ ls, l.Rendered p) ∧
    text = ls.flatMap fun l => l.spelling ++ l.separator

/-- Rendering the tokens of a text without errors gives a rendered text. -/
theorem isRendered_renderAll {p : Policy} {text : List Char}
    (herror : ∀ t ∈ tokens p text, t.isError = false) :
    IsRendered p (Token.renderAll (tokens p text)).toList := by
  have hallowed : ∀ l ∈ lexemes p text, l.Allowed p := fun l hl =>
    allowed_of_mem_lexemes herror hl
  refine ⟨(lexemes p text).map Lexeme.marked, ?_, toList_renderAll_tokens hallowed⟩
  intro l hl
  obtain ⟨m, hm, rfl⟩ := List.mem_map.mp hl
  exact Lexeme.rendered_marked (hallowed m hm) (Lexeme.fresh_of_mem_lexemes hm)

namespace IsRendered

variable {p : Policy} {text : List Char}

theorem append_newline (h : IsRendered p text) : IsRendered p (text ++ ['\n']) := by
  obtain ⟨ls, hls, rfl⟩ := h
  refine ⟨ls ++ [.newline], ?_, by simp [Lexeme.spelling, Lexeme.separator]⟩
  intro l hl
  rcases List.mem_append.mp hl with hl | hl
  · exact hls l hl
  · rw [List.mem_singleton.mp hl]
    exact Lexeme.rendered_newline p

/-- A policy without the escape character in identifiers has none in rendered texts. -/
theorem escape_notMem (hstart : p.startsIdent '\x1b' = false)
    (hcontinues : p.continuesIdent '\x1b' = false) (h : IsRendered p text) :
    '\x1b' ∉ text := by
  obtain ⟨ls, hls, rfl⟩ := h
  intro hmem
  obtain ⟨l, hl, hmem⟩ := List.mem_flatMap.mp hmem
  rcases List.mem_append.mp hmem with hspelling | hseparator
  · exact (hls l hl).allowed.escape_notMem hstart hcontinues hspelling
  · exact l.escape_notMem_separator hseparator

section Space

variable (hspace : p.isBlank ' ' = true)

include hspace

/-- The lexemes that are spelled are the lexemes that are read. -/
theorem spells_lexemes (h : IsRendered p text) :
    (∀ l ∈ lexemes p text, l.Rendered p) ∧
      text = (lexemes p text).flatMap fun l => l.spelling ++ l.separator := by
  obtain ⟨ls, hls, rfl⟩ := h
  rw [lexemes_flatMap_spelling hspace ls fun l hl => ⟨(hls l hl).allowed, (hls l hl).fresh⟩]
  exact ⟨hls, rfl⟩

theorem isError_eq_false (h : IsRendered p text) : ∀ t ∈ tokens p text, t.isError = false := by
  intro t ht
  rw [tokens_eq_map] at ht
  obtain ⟨r, hr, rfl⟩ := List.mem_map.mp ht
  have hrendered := (h.spells_lexemes hspace).1 r.lexeme (List.mem_map_of_mem hr)
  exact hrendered.allowed.isError_token _

theorem renderAll_tokens (h : IsRendered p text) :
    (Token.renderAll (tokens p text)).toList = text := by
  obtain ⟨hls, htext⟩ := h.spells_lexemes hspace
  have hmarked : (lexemes p text).map Lexeme.marked = lexemes p text :=
    (List.map_congr_left fun l hl => (hls l hl).marked).trans (List.map_id _)
  rw [toList_renderAll_tokens fun l hl => (hls l hl).allowed, hmarked, ← htext]

end Space

end IsRendered

end UnitScan

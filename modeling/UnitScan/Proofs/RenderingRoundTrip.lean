import UnitScan.Proofs.SpelledLexemes
import UnitScan.Token.Rendering
import Mathlib.Data.List.Basic

/-!
# Rendered tokens are read back

The rendering of a text without errors has the same tokens as the text. Rendering writes every
exponent with the same mark and puts a space after identifiers and numbers only; operators and
newlines end where they end, whatever follows them.
-/

namespace UnitScan

namespace Numeral

/-- A numeral with its exponent marked by the small letter. -/
def marked (n : Numeral) : Numeral :=
  { n with exponent := n.exponent.map fun e => { e with mark := 'e' } }

theorem WellFormed.marked {n : Numeral} (h : n.WellFormed) : n.marked.WellFormed where
  integer := h.integer
  fraction := h.fraction
  exponent := by
    intro e he
    obtain ⟨d, hd, rfl⟩ := Option.map_eq_some_iff.mp he
    have hwf := h.exponent d hd
    exact ⟨rfl, hwf.sign, hwf.digits⟩

theorem numberText_marked (n : Numeral) : n.marked.numberText = n.numberText := by
  simp only [numberText, marked, Option.map_map]
  rfl

/-- The text of a number is the spelling of its numeral with the small mark. -/
theorem toList_text_numberText (n : Numeral) :
    n.numberText.text.toList = n.marked.spelling := by
  obtain ⟨integer, fraction, exponent⟩ := n
  cases fraction <;> cases exponent <;>
    simp [NumberText.text, numberText, marked, spelling, fractionSpelling, exponentSpelling,
      Exponent.spelling, Exponent.unmarked]

end Numeral

namespace Lexeme

/-- A lexeme as rendering spells it. -/
def marked : Lexeme → Lexeme
  | number n => number n.marked
  | l => l

/-- What rendering puts after a lexeme. -/
def separator : Lexeme → List Char
  | ident _ | number _ => [' ']
  | newline | operator _ | stray _ => []

@[simp] theorem content_marked (l : Lexeme) : l.marked.content = l.content := by
  cases l with
  | number n => simp [marked, content, Numeral.numberText_marked]
  | _ => rfl

theorem Allowed.marked {p : Policy} {l : Lexeme} (h : l.Allowed p) : l.marked.Allowed p := by
  cases h with
  | newline => exact Allowed.newline
  | ident hstart hname => exact Allowed.ident hstart hname
  | number hn => exact Allowed.number hn.marked
  | operator o => exact Allowed.operator o

theorem head?_spelling_marked {p : Policy} {l : Lexeme} (h : l.Allowed p) :
    l.marked.spelling.head? = l.spelling.head? := by
  cases h with
  | @number n hn =>
      obtain ⟨d, ds, hds⟩ := List.exists_cons_of_ne_nil hn.integer.1
      simp [Lexeme.marked, spelling, Numeral.spelling, Numeral.marked, hds]
  | _ => rfl

theorem toList_render_token {p : Policy} {l : Lexeme} (h : l.Allowed p) (pos : Position) :
    (l.token pos).render.toList = l.marked.spelling ++ l.separator := by
  cases h with
  | newline => simp [token, content, Token.render, Lexeme.marked, spelling, separator]
  | ident _ _ =>
      simp [token, content, Token.render, Token.Payload.plain, Lexeme.marked, spelling, separator]
  | number _ =>
      simp [token, content, Token.render, Token.Payload.plain, Lexeme.marked, spelling, separator,
        Numeral.toList_text_numberText]
  | operator o =>
      simp [token, content, Token.render, Lexeme.marked, spelling, separator]

end Lexeme

/-! ### Reading rendered lexemes -/

namespace Lexeme

variable {p : Policy} {l : Lexeme}

theorem fresh_of_mem_lexemes {text : List Char} (h : l ∈ lexemes p text) : l.Fresh p :=
  (realizable_of_mem_lexemes h).fresh

@[simp] theorem separator_marked (l : Lexeme) : l.marked.separator = l.separator := by
  cases l <;> rfl

theorem Fresh.marked (h : l.Fresh p) (hl : l.Allowed p) : l.marked.Fresh p := by
  intro c hc
  rw [head?_spelling_marked hl] at hc
  exact h c hc

/-- What rendering puts after a lexeme is a gap and ends the lexeme, whatever is rendered after
it. -/
theorem isGap_separator (hspace : p.isBlank ' ' = true) (l : Lexeme) (rest : List Char) :
    Gap.IsGap p l.separator rest := by
  cases l with
  | ident _ => exact isGap_space hspace rest
  | number _ => exact isGap_space hspace rest
  | _ => exact Gap.IsGap.nil

theorem delimits_separator (hspace : p.isBlank ' ' = true) (h : l.Allowed p)
    (rest : List Char) : l.Delimits p (l.separator ++ rest) := by
  cases h with
  | newline =>
      intro x _
      exact ⟨rfl, fun heq => by cases heq⟩
  | ident _ _ => exact delimits_space hspace _ rest
  | number _ => exact delimits_space hspace _ rest
  | operator o =>
      intro x _
      exact ⟨rfl, fun heq => by cases o <;> cases heq⟩

end Lexeme

/-- Lexemes of a policy that are spelled one after the other, with a space after each identifier
and number, are read back. -/
theorem lexemes_flatMap_spelling {p : Policy} (hspace : p.isBlank ' ' = true) (ls : List Lexeme)
    (hls : ∀ l ∈ ls, l.Allowed p ∧ l.Fresh p) :
    lexemes p (ls.flatMap fun l => l.spelling ++ l.separator) = ls := by
  apply Lexeme.lexemes_flatMap ls
  · intro l hl
    exact ⟨Or.inl (hls l hl).1, (hls l hl).2⟩
  · intro l hl rest
    exact ⟨Lexeme.isGap_separator hspace l rest,
      Lexeme.delimits_separator hspace (hls l hl).1 rest⟩

/-! ### The round trip -/

/-- A text without error tokens has only lexemes of the grammar. -/
theorem allowed_of_mem_lexemes {p : Policy} {text : List Char}
    (herror : ∀ t ∈ tokens p text, t.isError = false) {l : Lexeme} (hl : l ∈ lexemes p text) :
    l.Allowed p := by
  obtain ⟨r, hr, rfl⟩ := List.mem_map.mp hl
  rcases allowed_or_stray_of_mem_readings hr with hallowed | ⟨c, hstray, _⟩
  · exact hallowed
  · have hmem : r.lexeme.token (Position.start.after (text.take (r.offset text))) ∈
        tokens p text := by
      rw [tokens_eq_map]
      exact List.mem_map_of_mem hr
    have hfalse := herror _ hmem
    rw [Lexeme.isError_token_iff.mpr ⟨c, hstray⟩] at hfalse
    cases hfalse

theorem toList_renderAll_tokens {p : Policy} {text : List Char}
    (hallowed : ∀ l ∈ lexemes p text, l.Allowed p) :
    (Token.renderAll (tokens p text)).toList =
      ((lexemes p text).map Lexeme.marked).flatMap fun l => l.spelling ++ l.separator := by
  rw [Token.renderAll, String.toList_join, tokens_eq_map, lexemes]
  simp only [List.map_map, List.flatMap_map]
  apply List.flatMap_congr
  intro r hr
  have hr' := hallowed r.lexeme (List.mem_map_of_mem hr)
  simp [Lexeme.toList_render_token hr']

/-- Scanning the rendering of a text without errors gives the tokens of the text again, up to
their positions, under every policy that skips the space. -/
theorem map_content_tokens_renderAll (p : Policy) (text : List Char)
    (hspace : p.isBlank ' ' = true) (herror : ∀ t ∈ tokens p text, t.isError = false) :
    (tokens p (Token.renderAll (tokens p text)).toList).map Token.content =
      (tokens p text).map Token.content := by
  have hallowed : ∀ l ∈ lexemes p text, l.Allowed p := fun l hl =>
    allowed_of_mem_lexemes herror hl
  have hmarked : ∀ l ∈ (lexemes p text).map Lexeme.marked, l.Allowed p ∧ l.Fresh p := by
    intro l hl
    obtain ⟨m, hm, rfl⟩ := List.mem_map.mp hl
    have hfresh := Lexeme.fresh_of_mem_lexemes hm
    exact ⟨(hallowed m hm).marked, hfresh.marked (hallowed m hm)⟩
  calc
    (tokens p (Token.renderAll (tokens p text)).toList).map Token.content
        = (lexemes p (Token.renderAll (tokens p text)).toList).map Lexeme.content :=
      map_content_tokens p _
    _ = ((lexemes p text).map Lexeme.marked).map Lexeme.content := by
      rw [toList_renderAll_tokens hallowed, lexemes_flatMap_spelling hspace _ hmarked]
    _ = (lexemes p text).map Lexeme.content := by
      rw [List.map_map]
      exact List.map_congr_left fun l _ => Lexeme.content_marked l
    _ = (tokens p text).map Token.content := (map_content_tokens p text).symm

/-- The round trip of a text with both exponent marks, a mark without digits, a comment, a
continuation and an operator next to a name, under the standard policy. -/
theorem map_content_tokens_renderAll_standard :
    Policy.standard.isBlank ' ' = true ∧
      (∀ t ∈ tokens Policy.standard "5em 1E+5|'.2e3 # x\n\\\n-a.b".toList, t.isError = false) ∧
      (tokens Policy.standard (Token.renderAll
          (tokens Policy.standard "5em 1E+5|'.2e3 # x\n\\\n-a.b".toList)).toList).map
          Token.content =
        (tokens Policy.standard "5em 1E+5|'.2e3 # x\n\\\n-a.b".toList).map Token.content := by
  have hspace : Policy.standard.isBlank ' ' = true := by decide
  have herror : ∀ t ∈ tokens Policy.standard "5em 1E+5|'.2e3 # x\n\\\n-a.b".toList,
      t.isError = false := by
    decide +kernel
  exact ⟨hspace, herror, map_content_tokens_renderAll _ _ hspace herror⟩

end UnitScan

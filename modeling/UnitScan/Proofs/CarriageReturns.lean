import Mathlib.Data.List.Basic
import UnitScan.Proofs.OpenComments

/-!
# Carriage returns at the ends of lines

A file may have a carriage return before every newline. Under a policy that skips carriage returns,
its text has the tokens of the text without them, positions aside, as long as a scan of the latter
consumes no continuation. The carriage return stands between a backslash and its newline, so where
there was a continuation, there are now a stray backslash and the newline.
-/

namespace UnitScan

/-! ### Texts with carriage returns -/

namespace Text

/-- The text with a carriage return added before every newline. -/
def withReturns (text : List Char) : List Char :=
  text.flatMap fun c => if c = '\n' then ['\r', '\n'] else [c]

@[simp] theorem withReturns_nil : withReturns [] = [] := rfl

@[simp] theorem withReturns_newline_cons (text : List Char) :
    withReturns ('\n' :: text) = '\r' :: '\n' :: withReturns text := rfl

theorem withReturns_cons_of_ne {c : Char} (h : c ≠ '\n') (text : List Char) :
    withReturns (c :: text) = c :: withReturns text := by
  simp [withReturns, h]

theorem withReturns_append_of_notMem {line : List Char} (h : '\n' ∉ line) (text : List Char) :
    withReturns (line ++ text) = line ++ withReturns text := by
  induction line with
  | nil => rfl
  | cons c line ih =>
      rw [List.mem_cons, not_or] at h
      obtain ⟨hc, hline⟩ := h
      rw [List.cons_append, withReturns_cons_of_ne (Ne.symm hc), ih hline, List.cons_append]

/-- No newline stands at the front, where it would have no carriage return before it. -/
theorem head?_withReturns (text : List Char) : ∀ x ∈ (withReturns text).head?, x ≠ '\n' := by
  cases text with
  | nil => simp
  | cons c text =>
      by_cases hc : c = '\n'
      · subst hc
        rintro x ⟨⟩
        decide
      · rw [withReturns_cons_of_ne hc]
        rintro x ⟨⟩
        exact hc

end Text

section Returns

variable {p : Policy} (hreturn : p.isBlank '\r' = true)

include hreturn

/-- A carriage return that is a blank ends every lexeme. -/
theorem Policy.boundary_return : p.Boundary '\r' where
  ident := continuesIdent_of_isBlank hreturn (by decide) (by decide)
  number := by decide
  sign := by decide

/-- A lexeme other than a newline is read in the same way when every newline further on has a
carriage return before it. -/
theorem Lexeme.read_withReturns {c : Char} (hc : c ≠ '\n') (tail : List Char) :
    read p c (Text.withReturns tail) =
      ((read p c tail).1, Text.withReturns (read p c tail).2) := by
  -- The lexeme ends on its line, whether a newline or a carriage return stands behind the line.
  obtain ⟨line, rest, rfl, hline, hhead⟩ := exists_eq_append_notMem '\n' tail
  have hnewline : ∀ x ∈ rest.head?, p.Boundary x := by
    intro x hx
    rw [hhead x hx]
    exact p.boundary_newline
  have hreturns : ∀ x ∈ (Text.withReturns rest).head?, p.Boundary x := by
    cases rest with
    | nil => simp
    | cons y rest =>
        obtain rfl := hhead y rfl
        rintro x ⟨⟩
        exact Policy.boundary_return hreturn
  have hleft := (notMem_read (List.not_mem_cons_of_ne_of_not_mem hc.symm hline) p).2
  rw [Text.withReturns_append_of_notMem hline, read_append_boundary hreturns,
    read_append_boundary hnewline, Text.withReturns_append_of_notMem hleft]

end Returns

/-! ### What becomes of the parts -/

namespace Part

/-- The part that a scan skips in order to join two lines. -/
def continuation : Part := piece ['\\', '\n']

/-- The lexemes of a part in a text whose newlines have carriage returns before them. The carriage
return takes a continuation apart. -/
def lexemesWithReturns (part : Part) : List Lexeme :=
  if part = continuation then [.stray '\\', .newline] else part.lexeme?.toList

/-- A piece of a gap other than a continuation has no lexemes. -/
theorem lexemesWithReturns_piece {chars : List Char} (h : '\n' ∉ chars) :
    (piece chars).lexemesWithReturns = [] := by
  rw [lexemesWithReturns, if_neg]
  · rfl
  · intro heq
    cases heq
    revert h
    decide

end Part

section Parts

variable {p : Policy} {text rest : List Char} {part : Part}

theorem lexemes_blank_cons {c : Char} (h : p.isBlank c = true) (rest : List Char) :
    lexemes p (c :: rest) = lexemes p rest :=
  lexemes_of_first (Part.next?_of_piece (Gap.Piece.blank h))

theorem lexemes_of_exhausted {c : Char} {tail : List Char} {l : Lexeme}
    (h : Gap.Exhausted p (c :: tail)) (hread : Lexeme.read p c tail = (l, rest)) :
    lexemes p (c :: tail) = l :: lexemes p rest :=
  lexemes_of_first (Part.next?_of_exhausted h hread)

theorem lexemes_newline_cons (p : Policy) (rest : List Char) :
    lexemes p ('\n' :: rest) = .newline :: lexemes p rest :=
  lexemes_of_exhausted (Gap.exhausted_newline p rest) (Lexeme.read_newline p rest)

variable (hreturn : p.isBlank '\r' = true)

include hreturn

theorem lexemes_return_newline_cons (rest : List Char) :
    lexemes p ('\r' :: '\n' :: rest) = .newline :: lexemes p rest := by
  rw [lexemes_blank_cons hreturn, lexemes_newline_cons]

/-- A piece of a gap is skipped also with the carriage returns, unless it is a continuation. -/
theorem lexemes_withReturns_of_piece {chars : List Char} (h : Gap.Piece p chars rest)
    (hslash : Lexeme.StartsNone p '\\') :
    lexemes p (Text.withReturns (chars ++ rest)) =
      (Part.piece chars).lexemesWithReturns ++ lexemes p (Text.withReturns rest) := by
  cases h with
  | @blank c _ hblank =>
      have hne := Policy.ne_of_isBlank hblank p.isBlank_newline
      rw [Part.lexemesWithReturns_piece (mt List.mem_singleton.mp hne), List.nil_append,
        List.singleton_append, Text.withReturns_cons_of_ne hne.symm, lexemes_blank_cons hblank]
  | @comment m body _ _ hm hline hstop =>
      have hchars := List.not_mem_cons_of_ne_of_not_mem (Policy.newline_ne_of_marker hm) hline
      rw [Part.lexemesWithReturns_piece hchars, List.nil_append,
        Text.withReturns_append_of_notMem hchars, List.cons_append, lexemes_of_marker hm,
        List.dropWhile_append_of_pos (decide_ne_of_notMem hline)]
      -- The comment swallows the carriage return of its line; on its own it is a blank.
      cases rest with
      | nil => rfl
      | cons x rest =>
          obtain rfl := hstop x rfl
          rw [Text.withReturns_newline_cons, lexemes_return_newline_cons hreturn]
          exact lexemes_newline_cons p _
  | continuation hblank hmarker _ =>
      have hend : Gap.Exhausted p ('\\' :: '\r' :: '\n' :: Text.withReturns rest) := by
        apply Gap.exhausted_of_ne_continuation hblank hmarker
        rintro - - x ⟨⟩
        decide
      have hstray := Lexeme.read_of_startsNone hslash ('\r' :: '\n' :: Text.withReturns rest)
      calc
        lexemes p (Text.withReturns (['\\', '\n'] ++ rest))
            = lexemes p ('\\' :: '\r' :: '\n' :: Text.withReturns rest) := rfl
        _ = .stray '\\' :: .newline :: lexemes p (Text.withReturns rest) := by
          rw [lexemes_of_exhausted hend hstray, lexemes_return_newline_cons hreturn]

theorem lexemes_withReturns_of_exhausted {c : Char} {tail : List Char} {l : Lexeme}
    (h : Gap.Exhausted p (c :: tail)) (hread : Lexeme.read p c tail = (l, rest)) :
    lexemes p (Text.withReturns (c :: tail)) = l :: lexemes p (Text.withReturns rest) := by
  by_cases hc : c = '\n'
  · subst hc
    rw [Lexeme.read_newline] at hread
    cases hread
    rw [Text.withReturns_newline_cons, lexemes_return_newline_cons hreturn]
  · have hend : Gap.Exhausted p (c :: Text.withReturns tail) := by
      apply Gap.exhausted_of_ne_continuation (Gap.not_blank_of_exhausted h)
        (Gap.not_marker_of_exhausted h)
      rintro - - x hx
      exact Text.head?_withReturns tail x hx
    have hreturns := Lexeme.read_withReturns hreturn hc tail
    rw [hread] at hreturns
    rw [Text.withReturns_cons_of_ne hc, lexemes_of_exhausted hend hreturns]

/-- With carriage returns before its newlines, a text has the lexemes of its parts, a stray
backslash and a newline for every continuation among them. -/
theorem lexemes_withReturns (hslash : Lexeme.StartsNone p '\\') (text : List Char) :
    lexemes p (Text.withReturns text) = (parts p text).flatMap Part.lexemesWithReturns := by
  fun_induction parts p text with
  | case1 text hnone =>
      rw [Part.next?_eq_none_iff.mp hnone, Text.withReturns_nil, lexemes_nil]
      rfl
  | case2 text part rest hsome ih =>
      rw [List.flatMap_cons, ← ih]
      rcases Part.next?_cases hsome with
        ⟨chars, rfl, rfl, hpiece⟩ | ⟨c, tail, l, rfl, rfl, hend, hread⟩
      · exact lexemes_withReturns_of_piece hreturn hpiece hslash
      · exact lexemes_withReturns_of_exhausted hreturn hend hread

end Parts

/-! ### Where the continuations are -/

/-- A scan consumes a continuation exactly where a backslash and a newline stand outside comments.
Here lexemes must end before the marker and before the backslash. -/
theorem continuation_mem_parts_iff {p : Policy} {m : Char} (hm : p.marker = some m)
    (hboundary : p.Boundary m) (hslash : p.Boundary '\\')
    (hpiece : ∀ rest, Gap.Piece p ['\\', '\n'] rest) (text : List Char) :
    Part.continuation ∈ parts p text ↔
      ∃ before after, text = before ++ '\\' :: '\n' :: after ∧ m ∉ Text.lastLine before := by
  constructor
  · intro hmem
    obtain ⟨before, later, hparts⟩ := List.append_of_mem hmem
    refine ⟨Part.spellAll before, Part.spellAll later, ?_, ?_⟩
    · rw [← spellAll_parts p text, hparts, Part.spellAll_append]
      rfl
    · have hfirst : (Part.spellAll (.continuation :: later)).head? = some '\\' := rfl
      exact marker_notMem_lastLine hm hboundary hparts hfirst (by decide)
  · rintro ⟨before, after, rfl, hline⟩
    have hmore := hslash.head?_cons ('\n' :: after)
    have hopen : ¬CommentOpen p before := by
      apply not_commentOpen
      intro m' hm'
      rw [hm] at hm'
      cases hm'
      exact hline
    have hnext : Part.next? p ('\\' :: '\n' :: after) = some (.continuation, after) :=
      Part.next?_of_piece (hpiece after)
    rw [parts_append hmore hopen, parts_of_next?_eq_some hnext]
    · exact List.mem_append_right _ List.mem_cons_self
    · rintro ⟨⟩

/-! ### Tokens -/

namespace Part

/-- The kinds and the payloads of the tokens of a part. -/
def contents (part : Part) : List (Token.Kind × Token.Payload) :=
  part.lexeme?.toList.map Lexeme.content

/-- The kinds and the payloads of the tokens of a part in a text whose newlines have carriage
returns before them. -/
def contentsWithReturns (part : Part) : List (Token.Kind × Token.Payload) :=
  if part = continuation then
    [(.error, .text "unexpected character '\\'"), (.newline, .none)]
  else part.contents

theorem map_content_lexemesWithReturns (part : Part) :
    part.lexemesWithReturns.map Lexeme.content = part.contentsWithReturns := by
  unfold lexemesWithReturns contentsWithReturns
  split
  · rfl
  · rfl

/-- The carriage returns make two more tokens of every continuation. -/
theorem length_flatMap_contentsWithReturns (parts : List Part) :
    (parts.flatMap contentsWithReturns).length =
      (parts.flatMap contents).length + 2 * parts.count continuation := by
  induction parts with
  | nil => rfl
  | cons part parts ih =>
      rw [List.flatMap_cons, List.flatMap_cons, List.length_append, List.length_append, ih]
      by_cases hpart : part = continuation
      · subst hpart
        rw [List.count_cons_self]
        have htwo : continuation.contentsWithReturns.length = 2 := rfl
        have hnone : continuation.contents.length = 0 := rfl
        omega
      · rw [List.count_cons_of_ne hpart, contentsWithReturns, if_neg hpart]
        omega

theorem flatMap_contentsWithReturns_eq_iff (parts : List Part) :
    parts.flatMap contentsWithReturns = parts.flatMap contents ↔ continuation ∉ parts := by
  constructor
  · intro h
    have hlength := length_flatMap_contentsWithReturns parts
    rw [h] at hlength
    apply List.count_eq_zero.mp
    omega
  · intro h
    apply List.flatMap_congr
    intro part hpart
    rw [contentsWithReturns, if_neg]
    rintro rfl
    exact h hpart

end Part

theorem map_content_tokens_eq_flatMap (p : Policy) (text : List Char) :
    (tokens p text).map Token.content = (parts p text).flatMap Part.contents := by
  rw [map_content_tokens, ← filterMap_parts, List.filterMap_eq_flatMap_toList, List.map_flatMap]
  rfl

theorem map_content_tokens_withReturns_eq_flatMap {p : Policy} (hreturn : p.isBlank '\r' = true)
    (hslash : Lexeme.StartsNone p '\\') (text : List Char) :
    (tokens p (Text.withReturns text)).map Token.content =
      (parts p text).flatMap Part.contentsWithReturns := by
  rw [map_content_tokens, lexemes_withReturns hreturn hslash, List.map_flatMap]
  simp only [Part.map_content_lexemesWithReturns]

/-- Whether the tokens of a text stay the same, up to their positions, when every newline gets a
carriage return before it. They do exactly if a scan of the text consumes no continuation, that is,
if comments swallow every backslash that stands immediately before a newline. In general every
continuation that the scan consumes becomes one error and one newline, and all else stays. -/
theorem map_content_tokens_withReturns (text : List Char) :
    ((tokens Policy.standard (Text.withReturns text)).map Token.content =
          (tokens Policy.standard text).map Token.content ↔
        Part.continuation ∉ parts Policy.standard text) ∧
      (Part.continuation ∉ parts Policy.standard text ↔
        ∀ before after, text = before ++ '\\' :: '\n' :: after → '#' ∈ Text.lastLine before) ∧
      (tokens Policy.standard text).map Token.content =
        (parts Policy.standard text).flatMap Part.contents ∧
      (tokens Policy.standard (Text.withReturns text)).map Token.content =
        (parts Policy.standard text).flatMap Part.contentsWithReturns := by
  have hmarker : Policy.standard.marker = some '#' := by decide
  have hboundary : Policy.standard.Boundary '#' := ⟨by decide, by decide, by decide⟩
  have hslash : Policy.standard.Boundary '\\' := ⟨by decide, by decide, by decide⟩
  have hpiece : ∀ rest, Gap.Piece Policy.standard ['\\', '\n'] rest := fun rest =>
    Gap.Piece.continuation (by decide) (by decide) (by decide)
  have hstray : Lexeme.StartsNone Policy.standard '\\' :=
    ⟨by decide, by decide, by decide, by decide⟩
  have hreturn : Policy.standard.isBlank '\r' = true := by decide
  have hcontents := map_content_tokens_eq_flatMap Policy.standard text
  have hreturns := map_content_tokens_withReturns_eq_flatMap hreturn hstray text
  refine ⟨?_, ?_, hcontents, hreturns⟩
  · rw [hcontents, hreturns]
    exact Part.flatMap_contentsWithReturns_eq_iff _
  · rw [continuation_mem_parts_iff hmarker hboundary hslash hpiece]
    constructor
    · intro h before after htext
      by_contra hline
      exact h ⟨before, after, htext, hline⟩
    · rintro h ⟨before, after, htext, hline⟩
      exact hline (h before after htext)

/-- A continuation outside of comments, and a backslash before the newline that ends a comment. -/
example : (tokens Policy.standard (Text.withReturns "a\\\n# \\\n".toList)).map Token.content =
    [(.ident, .text "a"), (.error, .text "unexpected character '\\'"), (.newline, .none),
      (.newline, .none)] := by
  decide +kernel

end UnitScan

import UnitScan.Proofs.SpelledLexemes

/-!
# What the checks of a policy keep apart

A character can have several parts in a policy: it can open comments, belong to identifiers, be a
blank, an operator or a digit. The checks of the settings exclude most pairs of these parts. Two
are left out. A comment marker may be among the starters of identifiers, and a blank may be an
operator, a letter or a digit. This module says exactly which policies keep these parts apart, and
what a scan makes of their texts.

## Implementation notes

A scan tries its character as a blank first and as a comment marker second. So where a character
has two parts, the other part is never taken where the scan looks for a gap.
-/

namespace UnitScan

/-! ### The places of a scan -/

/-- The places at which the scan of a text looks for a piece of a gap or for a lexeme, each given
by what is left of the text there. -/
inductive LooksAt (p : Policy) : List Char → List Char → Prop
  | here {text : List Char} : LooksAt p text text
  | piece {text piece rest last : List Char} (h : Gap.piece? p text = some (piece, rest))
      (later : LooksAt p rest last) : LooksAt p text last
  | lexeme {c : Char} {tail last : List Char} (h : Gap.piece? p (c :: tail) = none)
      (later : LooksAt p (Lexeme.read p c tail).2 last) : LooksAt p (c :: tail) last

section Places

variable {p : Policy}

theorem Gap.isGap_of_piece? {text piece rest : List Char}
    (h : piece? p text = some (piece, rest)) : IsGap p piece rest :=
  (piece_of_piece? h).isGap

theorem lexemes_of_piece?_eq_some {text piece rest : List Char}
    (h : Gap.piece? p text = some (piece, rest)) : lexemes p text = lexemes p rest := by
  rw [← Gap.piece?_append h]
  exact lexemes_append_of_isGap (Gap.isGap_of_piece? h)

theorem lexemes_of_piece?_eq_none {c : Char} {tail : List Char}
    (h : Gap.piece? p (c :: tail) = none) :
    lexemes p (c :: tail) =
      (Lexeme.read p c tail).1 :: lexemes p (Lexeme.read p c tail).2 := by
  have hsplit := congrArg Prod.snd (Gap.split_of_piece?_eq_none h)
  exact lexemes_of_next?_eq_some (Reading.next?_of_split_eq_cons hsplit)

/-- Where a scan looks at a character that begins no piece of a gap, it finds a lexeme. -/
theorem LooksAt.read_mem_lexemes {text rest : List Char} {x : Char}
    (h : LooksAt p text (x :: rest)) (hpiece : Gap.piece? p (x :: rest) = none) :
    (Lexeme.read p x rest).1 ∈ lexemes p text := by
  generalize hlast : x :: rest = last at h
  induction h with
  | here =>
      subst hlast
      rw [lexemes_of_piece?_eq_none hpiece]
      exact List.mem_cons_self
  | piece hfirst _ ih =>
      rw [lexemes_of_piece?_eq_some hfirst]
      exact ih hlast
  | lexeme hfirst _ ih =>
      rw [lexemes_of_piece?_eq_none hfirst]
      exact List.mem_cons_of_mem _ (ih hlast)

end Places

namespace Policy

variable {p : Policy} {c : Char}

/-! ### Comment markers and identifiers -/

/-- The comment marker neither starts nor continues an identifier. -/
def MarkerApart (p : Policy) : Prop :=
  ∀ c, p.marker = some c → p.startsIdent c = false ∧ p.continuesIdent c = false

/-- A character with which an identifier starts where a scan looks at it. -/
structure OpensIdent (p : Policy) (c : Char) : Prop where
  starts : p.startsIdent c = true
  blank : p.isBlank c = false
  marker : p.marker ≠ some c

/-- A character of some identifier that is a token of some text. -/
def OccursInIdent (p : Policy) (c : Char) : Prop :=
  ∃ text, ∃ t ∈ tokens p text, ∃ name : String,
    t.content = (.ident, .text name) ∧ c ∈ name.toList

/-- No comment marker continues an identifier. -/
theorem continuesIdent_of_marker (h : p.marker = some c) : p.continuesIdent c = false := by
  have hreserved := reservedFromComment_of_marker h
  simp only [Settings.reservedFromComment, Character.isAlphanumeric, Bool.or_eq_false_iff]
    at hreserved
  obtain ⟨⟨⟨hletter, hdigit⟩, -⟩, hjoiner⟩ := hreserved
  simp only [continuesIdent, hletter, hdigit, hjoiner, Bool.or_self]

theorem isLetter_of_marker (h : p.marker = some c) : Character.isLetter c = false := by
  have hcontinues := continuesIdent_of_marker h
  simp only [continuesIdent, Bool.or_eq_false_iff] at hcontinues
  exact hcontinues.1.1

/-- A comment marker starts identifiers only if the settings name it as a starter. -/
theorem startsIdent_of_marker_iff (h : p.marker = some c) :
    p.startsIdent c = true ↔ c ∈ p.settings.starters.toList := by
  simp [startsIdent, isLetter_of_marker h]

theorem markerApart_iff :
    p.MarkerApart ↔ ∀ c, p.marker = some c → c ∉ p.settings.starters.toList := by
  constructor
  · intro happart c hc hmem
    have hstarts := (startsIdent_of_marker_iff hc).mpr hmem
    rw [(happart c hc).1] at hstarts
    cases hstarts
  · intro hnotMem c hc
    refine ⟨?_, continuesIdent_of_marker hc⟩
    rw [Bool.eq_false_iff]
    exact mt (startsIdent_of_marker_iff hc).mp (hnotMem c hc)

/-- A text that starts with a character that opens identifiers and goes on with characters that
continue them is one identifier. -/
theorem OpensIdent.lexemes_eq (h : p.OpensIdent c) {tail : List Char}
    (htail : ∀ x ∈ tail, p.continuesIdent x = true) :
    lexemes p (c :: tail) = [.ident (c :: tail)] := by
  have hfresh : (Lexeme.ident (c :: tail)).Fresh p := by
    rintro x ⟨⟩
    exact ⟨h.blank, h.marker⟩
  have hrealizable : (Lexeme.ident (c :: tail)).Realizable p :=
    ⟨Or.inl (.ident h.starts htail), hfresh⟩
  have hends : (Lexeme.ident (c :: tail)).Delimits p [] := by
    rintro x ⟨⟩
  have hnext := hrealizable.next?_spelling_append hends
  rw [List.append_nil] at hnext
  exact (lexemes_of_next?_eq_some hnext).trans (by rw [lexemes_nil])

/-- A blank that starts identifiers is a letter, so it continues them as well. -/
theorem continuesIdent_of_startsIdent (hstarts : p.startsIdent c = true)
    (hblank : p.isBlank c = true) : p.continuesIdent c = true := by
  cases hletter : Character.isLetter c with
  | true => simp [continuesIdent, hletter]
  | false =>
      rw [startsIdent_of_notMem hletter (p.blank_notMem_special hblank)] at hstarts
      cases hstarts

/-- A character occurs in identifiers exactly if it opens one or goes on with one. -/
theorem occursInIdent_iff :
    p.OccursInIdent c ↔
      p.OpensIdent c ∨ p.continuesIdent c = true ∧ ∃ first, p.OpensIdent first := by
  constructor
  · rintro ⟨text, t, ht, name, hcontent, hc⟩
    have hmem : t.content ∈ (lexemes p text).map Lexeme.content := by
      rw [← map_content_tokens]
      exact List.mem_map_of_mem ht
    obtain ⟨l, hl, heq⟩ := List.mem_map.mp hmem
    have hrealizable := Lexeme.realizable_of_mem_lexemes hl
    rw [hcontent] at heq
    rcases hrealizable.recognised with hallowed | ⟨x, rfl, -⟩
    · cases hallowed with
      | @ident first tail hstart htail =>
          obtain ⟨hblank, hmarker⟩ := hrealizable.fresh first rfl
          have hopens : p.OpensIdent first := ⟨hstart, hblank, hmarker⟩
          have hname : String.ofList (first :: tail) = name :=
            Token.Payload.text.inj (congrArg Prod.snd heq)
          rw [← hname, String.toList_ofList] at hc
          rcases List.mem_cons.mp hc with rfl | hlater
          · exact Or.inl hopens
          · exact Or.inr ⟨htail c hlater, first, hopens⟩
      | newline => cases heq
      | number _ => cases heq
      | operator _ => cases heq
    · cases heq
  · have hoccurs : ∀ first tail, p.OpensIdent first → (∀ x ∈ tail, p.continuesIdent x = true) →
        c ∈ first :: tail → p.OccursInIdent c := by
      intro first tail hfirst htail hc
      have hmem : (Lexeme.ident (first :: tail)).content ∈
          (tokens p (first :: tail)).map Token.content := by
        rw [map_content_tokens, hfirst.lexemes_eq htail]
        exact List.mem_cons_self
      obtain ⟨t, ht, hcontent⟩ := List.mem_map.mp hmem
      refine ⟨first :: tail, t, ht, String.ofList (first :: tail), hcontent, ?_⟩
      rwa [String.toList_ofList]
    rintro (hopens | ⟨hcontinues, first, hopens⟩)
    · exact hoccurs c [] hopens (by simp) List.mem_cons_self
    · exact hoccurs first [c] hopens (by simpa using hcontinues) (by simp)

/-- The comment marker is kept apart from the characters of identifiers exactly if it is not one of
the starters. A starter that is the marker opens comments and occurs in no identifier. If the
marker is kept apart, no character of identifiers opens a comment, and all of them occur in
identifiers, unless every character that starts identifiers is a blank. -/
theorem markerApart_iff_and_occursInIdent_iff (p : Policy) :
    (p.MarkerApart ↔ ∀ c, p.marker = some c → c ∉ p.settings.starters.toList) ∧
      (∀ c, p.marker = some c → ¬p.OccursInIdent c) ∧
      (p.MarkerApart → ∀ c, p.startsIdent c = true ∨ p.continuesIdent c = true →
        p.marker ≠ some c ∧
          (p.OccursInIdent c ↔ ∃ first, p.startsIdent first = true ∧ p.isBlank first = false)) := by
  refine ⟨markerApart_iff, ?_, ?_⟩
  · intro c hc hoccurs
    rcases occursInIdent_iff.mp hoccurs with hopens | ⟨hcontinues, -⟩
    · exact hopens.marker hc
    · rw [continuesIdent_of_marker hc] at hcontinues
      cases hcontinues
  · intro happart c hident
    have hopens_iff : ∀ first, p.OpensIdent first ↔
        p.startsIdent first = true ∧ p.isBlank first = false := by
      intro first
      constructor
      · intro h
        exact ⟨h.starts, h.blank⟩
      · rintro ⟨hstarts, hblank⟩
        refine ⟨hstarts, hblank, fun hmarker => ?_⟩
        rw [(happart first hmarker).1] at hstarts
        cases hstarts
    constructor
    · intro hmarker
      simp [happart c hmarker] at hident
    · rw [occursInIdent_iff]
      simp only [hopens_iff]
      constructor
      · rintro (hopens | ⟨-, hopens⟩)
        · exact ⟨c, hopens⟩
        · exact hopens
      · rintro ⟨first, hfirst⟩
        by_cases hcontinues : p.continuesIdent c = true
        · exact Or.inr ⟨hcontinues, first, hfirst⟩
        have hstarts := hident.resolve_right hcontinues
        refine Or.inl ⟨hstarts, ?_⟩
        rw [Bool.eq_false_iff]
        exact mt (continuesIdent_of_startsIdent hstarts) hcontinues

/-- Under the standard policy a point, which starts no identifier, occurs in one. -/
theorem markerApart_iff_and_occursInIdent_iff_standard :
    standard.MarkerApart ∧ standard.marker ≠ some '.' ∧ ¬standard.OccursInIdent '#' ∧
      standard.OccursInIdent '.' := by
  obtain ⟨hiff, hmarker, hoccurs⟩ := markerApart_iff_and_occursInIdent_iff standard
  have happart : standard.MarkerApart := by
    apply hiff.mpr
    rintro c ⟨⟩
    decide
  obtain ⟨hne, hpoint⟩ := hoccurs happart '.' (by decide)
  exact ⟨happart, hne, hmarker '#' (by decide), hpoint.mpr ⟨'a', by decide⟩⟩

/-- A policy whose comment marker is one of the starters of identifiers. -/
def hashStarter : Policy := ⟨{ starters := "#" }, by decide⟩

/-- The checks accept a comment marker that starts identifiers, and a scan takes it as a comment. -/
theorem not_markerApart_hashStarter :
    ¬hashStarter.MarkerApart ∧ hashStarter.marker = some '#' ∧
      hashStarter.startsIdent '#' = true ∧ tokens hashStarter "#a".toList = [] := by
  refine ⟨fun happart => ?_, by decide, by decide, by decide +kernel⟩
  have hstarts := (happart '#' (by decide)).1
  revert hstarts
  decide

/-! ### Blanks and tokens -/

/-- No blank is an operator, an ASCII digit, or a character of identifiers. -/
def BlanksApart (p : Policy) : Prop :=
  ∀ c, p.isBlank c = true →
    Operator.isChar c = false ∧ c.isDigit = false ∧ p.startsIdent c = false ∧
      p.continuesIdent c = false

/-- A character with which an operator, a number or an identifier starts. -/
def OpensToken (p : Policy) (c : Char) : Prop :=
  Operator.isChar c = true ∨ c.isDigit = true ∨ p.startsIdent c = true

/-- The comment marker and the continuation of a line: what is no blank may begin a gap by them
alone. -/
def OpensGap (p : Policy) (c : Char) (rest : List Char) : Prop :=
  p.marker = some c ∨ p.settings.continuation = true ∧ c = '\\' ∧ rest.head? = some '\n'

theorem blanksApart_iff :
    p.BlanksApart ↔ ∀ c, p.isBlank c = true →
      Operator.isChar c = false ∧ Character.isLetter c = false ∧
        Character.isDigit c = false := by
  constructor
  · intro happart c hc
    obtain ⟨hoperator, -, hstarts, hcontinues⟩ := happart c hc
    simp only [startsIdent, continuesIdent, Bool.or_eq_false_iff] at hstarts hcontinues
    exact ⟨hoperator, hstarts.1, hcontinues.1.2⟩
  · intro hplain c hc
    obtain ⟨hoperator, hletter, hdigit⟩ := hplain c hc
    have hspecial := p.blank_notMem_special hc
    refine ⟨hoperator, ?_, startsIdent_of_notMem hletter hspecial,
      continuesIdent_of_notMem hletter hdigit hspecial⟩
    rw [Bool.eq_false_iff]
    intro hascii
    rw [Character.isDigit_of_isDigit hascii] at hdigit
    cases hdigit

theorem BlanksApart.isBlank_of_opensToken (h : p.BlanksApart) (hc : p.OpensToken c) :
    p.isBlank c = false := by
  rw [Bool.eq_false_iff]
  intro hblank
  obtain ⟨hoperator, hdigit, hstarts, -⟩ := h c hblank
  simp [OpensToken, hoperator, hdigit, hstarts] at hc

/-- A character that opens a token and begins no gap is the first one of an allowed lexeme. -/
theorem OpensToken.allowed_read (h : p.OpensToken c) (rest : List Char) :
    (Lexeme.read p c rest).1.Allowed p := by
  rcases Lexeme.allowed_read_or_startsNone p c rest with hallowed | hnone
  · exact hallowed
  · simp [OpensToken, hnone.operator, hnone.number, hnone.ident] at h

theorem piece?_eq_none_of_not_opensGap {rest : List Char} (hblank : p.isBlank c = false)
    (h : ¬p.OpensGap c rest) : Gap.piece? p (c :: rest) = none := by
  rw [Gap.piece?_eq_none_iff]
  apply Gap.exhausted_of_ne_continuation hblank
  · intro hmarker
    exact h (Or.inl hmarker)
  · rintro hon rfl x hx rfl
    exact h (Or.inr ⟨hon, rfl, hx⟩)

end Policy

theorem Lexeme.head?_spelling_read (p : Policy) (c : Char) (rest : List Char) :
    (read p c rest).1.spelling.head? = some c := by
  have happend := read_append p c rest
  obtain ⟨x, later, hspelling⟩ := List.exists_cons_of_ne_nil (spelling_read_ne_nil p c rest)
  rw [hspelling, List.cons_append] at happend
  rw [hspelling, List.head?_cons, (List.cons.inj happend).1]

namespace Policy

/-- No blank is the newline, the comment marker or one of the extra characters of identifiers. The
blanks are kept apart from all tokens exactly if none of them is an operator, a letter or a digit of
any script. If they are, a scan that looks at a character with which an operator, a number or an
identifier starts does not skip it as a blank: it reads a token that starts with it, unless a
comment or a continuation begins there. -/
theorem blanksApart_iff_and_read (p : Policy) :
    (∀ c, p.isBlank c = true → c ≠ '\n' ∧ c ∉ p.settings.special) ∧
      (p.BlanksApart ↔ ∀ c, p.isBlank c = true →
        Operator.isChar c = false ∧ Character.isLetter c = false ∧
          Character.isDigit c = false) ∧
      (p.BlanksApart → ∀ text c rest, LooksAt p text (c :: rest) → p.OpensToken c →
        p.isBlank c = false ∧ (p.OpensGap c rest ∨
          ∃ l : Lexeme, l.Allowed p ∧ l.spelling.head? = some c ∧
            ∃ t ∈ tokens p text, t.content = l.content)) := by
  refine ⟨?_, blanksApart_iff, ?_⟩
  · intro c hc
    refine ⟨?_, p.blank_notMem_special hc⟩
    rintro rfl
    rw [p.isBlank_newline] at hc
    cases hc
  · intro happart text c rest hlooks hopens
    have hblank := happart.isBlank_of_opensToken hopens
    refine ⟨hblank, ?_⟩
    by_cases hgap : p.OpensGap c rest
    · exact Or.inl hgap
    right
    have hmem := hlooks.read_mem_lexemes (piece?_eq_none_of_not_opensGap hblank hgap)
    have hcontent : (Lexeme.read p c rest).1.content ∈ (tokens p text).map Token.content := by
      rw [map_content_tokens]
      exact List.mem_map_of_mem hmem
    obtain ⟨t, ht, heq⟩ := List.mem_map.mp hcontent
    exact ⟨_, hopens.allowed_read rest, Lexeme.head?_spelling_read p c rest, t, ht, heq⟩

/-- Under the standard policy a scan that looks at an operator behind a blank reads it. -/
theorem blanksApart_iff_and_read_standard :
    standard.BlanksApart ∧ standard.isBlank '+' = false ∧
      ∃ l : Lexeme, l.Allowed standard ∧ l.spelling.head? = some '+' ∧
        ∃ t ∈ tokens standard " +1".toList, t.content = l.content := by
  obtain ⟨-, hiff, hread⟩ := blanksApart_iff_and_read standard
  have happart : standard.BlanksApart := by
    apply hiff.mpr
    intro c hc
    have hmem : c ∈ [' ', '\t', '\r'] := by simpa [isBlank, standard] using hc
    simp only [List.mem_cons, List.not_mem_nil, or_false] at hmem
    rcases hmem with rfl | rfl | rfl <;> decide
  have hpiece : Gap.piece? standard " +1".toList = some ([' '], "+1".toList) := by decide
  have hlooks : LooksAt standard " +1".toList "+1".toList := .piece hpiece .here
  obtain ⟨hblank, hread⟩ := hread happart _ '+' ['1'] hlooks (Or.inl (by decide))
  refine ⟨happart, hblank, hread.resolve_left ?_⟩
  rintro (hmarker | ⟨-, hbackslash, -⟩)
  · revert hmarker
    decide
  · cases hbackslash

/-- A policy whose blanks include an operator. -/
def plusBlank : Policy := ⟨{ blanks := " +" }, by decide⟩

/-- The checks accept an operator among the blanks, and a scan skips it between two numbers. -/
theorem not_blanksApart_plusBlank :
    ¬plusBlank.BlanksApart ∧ plusBlank.isBlank '+' = true ∧ Operator.isChar '+' = true ∧
      (tokens plusBlank "1+2".toList).map Token.content =
        [(.number, .number ⟨"1", none, none⟩), (.number, .number ⟨"2", none, none⟩)] := by
  refine ⟨fun happart => ?_, by decide, by decide, by decide +kernel⟩
  have hoperator := (happart '+' (by decide)).1
  revert hoperator
  decide

end Policy

end UnitScan

import UnitScan.Proofs.Readings

/-!
# A text is divided by its tokens

Every character of a text belongs to exactly one token or to exactly one piece of a gap.
`Token.Spells` says which characters a token may stand for, from its kind and its payload alone,
and `Divided` strings tokens and gaps together to a whole text; `divided_tokens` is the division
of every text by its own tokens.
-/

namespace UnitScan

/-- The characters that a token stands for. The payload of a number does not tell the mark of
the exponent, which is one of two letters. -/
inductive Token.Spells : Token → List Char → Prop
  | newline {pos : Position} : Spells ⟨.newline, .none, pos⟩ ['\n']
  | ident {name : String} {pos : Position} : Spells ⟨.ident, .text name, pos⟩ name.toList
  | number {n : NumberText} {mark : Char} {pos : Position} (hmark : mark = 'e' ∨ mark = 'E') :
      Spells ⟨.number, .number n, pos⟩
        (n.integer.toList ++ n.fraction.elim [] (fun f => '.' :: f.toList) ++
          n.exponent.elim [] (fun e => mark :: e.toList))
  | operator {o : Operator} {pos : Position} : Spells ⟨.operator o, .none, pos⟩ [o.char]
  | error {x : Char} {pos : Position} :
      Spells ⟨.error, .text ("unexpected character '" ++ x.toString ++ "'"), pos⟩ [x]

/-- A text that consists of the tokens in order, with one gap before each of them and one gap
after the last. Each gap is a gap in front of the rest of the text. -/
inductive Divided (p : Policy) : List Char → List Token → Prop
  | last {gap : List Char} (hgap : Gap.IsGap p gap []) : Divided p gap []
  | token {gap spelling rest : List Char} {t : Token} {ts : List Token}
      (hgap : Gap.IsGap p gap (spelling ++ rest)) (hspelling : t.Spells spelling)
      (hrest : Divided p rest ts) : Divided p (gap ++ (spelling ++ rest)) (t :: ts)

theorem Numeral.spells_token {n : Numeral} (h : n.WellFormed) (pos : Position) :
    ((Lexeme.number n).token pos).Spells n.spelling := by
  obtain ⟨integer, fraction, exponent⟩ := n
  cases exponent with
  | none =>
      have hspells := @Token.Spells.number
        (numberText ⟨integer, fraction, none⟩) 'e' pos (Or.inl rfl)
      cases fraction <;> simpa [Lexeme.token, Lexeme.content, numberText, spelling,
        fractionSpelling, exponentSpelling] using hspells
  | some e =>
      have hmark := Exponent.isMark_iff.mp (h.exponent e rfl).mark
      have hspells := @Token.Spells.number
        (numberText ⟨integer, fraction, some e⟩) e.mark pos hmark
      cases fraction <;> simpa [Lexeme.token, Lexeme.content, numberText, spelling,
        fractionSpelling, exponentSpelling, Exponent.spelling] using hspells

/-- The token of a step stands for the characters of its lexeme. -/
theorem Reading.spells_token {p : Policy} {text : List Char} {r : Reading}
    (h : next? p text = some r) (pos : Position) :
    (r.lexeme.token pos).Spells r.lexeme.spelling := by
  rcases allowed_or_stray h with hallowed | ⟨x, hstray, _⟩
  · cases hl : r.lexeme with
    | newline => exact Token.Spells.newline
    | ident name =>
        have hspells := @Token.Spells.ident (String.ofList name) pos
        rw [String.toList_ofList] at hspells
        exact hspells
    | number n =>
        rw [hl] at hallowed
        cases hallowed with
        | number hn => exact Numeral.spells_token hn pos
    | operator o => exact Token.Spells.operator
    | stray x => exact absurd hl (hallowed.ne_stray x)
  · rw [hstray]
    exact Token.Spells.error

theorem divided_tokensFrom (p : Policy) (start : Position) (text : List Char) :
    Divided p text (tokensFrom p start text) := by
  fun_induction readings p text generalizing start with
  | case1 text hnone =>
      rw [tokensFrom_of_next?_eq_none hnone]
      apply Divided.last
      exact Reading.isGap_of_next?_eq_none hnone
  | case2 text r hsome ih =>
      rw [tokensFrom_of_next?_eq_some hsome, ← Reading.next?_append hsome]
      apply Divided.token
      · exact Reading.isGap_of_next?_eq_some hsome
      · exact Reading.spells_token hsome (r.lexemeStart start)
      · exact ih (r.lexemeEnd start)

/-- Every text is a gap, the characters of its first token, a gap, the characters of its second
token, and so on up to the gap after its last token. -/
theorem divided_tokens (p : Policy) (text : List Char) : Divided p text (tokens p text) :=
  divided_tokensFrom p Position.start text

end UnitScan

import UnitScan.Proofs.Readings

/-!
# Streams hand out the tokens of their texts

A stream that has shown nothing yet is determined by its cursor. Its members are the tokens of
what the cursor has left, counted from the position of the cursor, and then one end token.
-/

namespace UnitScan

namespace Cursor

variable {p : Policy} {c : Cursor}

theorem nextToken_of_next?_eq_none (h : Reading.next? p c.rest = none) :
    c.nextToken p = (.endAt (c.position.after c.rest), c.skip c.rest.length) := by
  rw [nextToken, h]
  simp only [position_skip, List.take_length]

theorem rest_nextToken_of_next?_eq_none (h : Reading.next? p c.rest = none) :
    (c.nextToken p).2.rest = [] := by
  rw [nextToken_of_next?_eq_none h, rest_skip, List.drop_length]

section Lexeme

variable {r : Reading}

theorem take_rest_of_next? (h : Reading.next? p c.rest = some r) :
    c.rest.take r.gap.length = r.gap := by
  rw [← Reading.next?_append h, List.take_left]

theorem drop_rest_of_next? (h : Reading.next? p c.rest = some r) :
    c.rest.drop r.gap.length = r.lexeme.spelling ++ r.rest := by
  rw [← Reading.next?_append h, List.drop_left]

theorem token_nextToken (h : Reading.next? p c.rest = some r) :
    (c.nextToken p).1 = r.lexeme.token (r.lexemeStart c.position) := by
  rw [nextToken, h]
  simp only [position_skip, take_rest_of_next? h, Reading.lexemeStart]

theorem rest_nextToken (h : Reading.next? p c.rest = some r) :
    (c.nextToken p).2.rest = r.rest := by
  rw [nextToken, h]
  simp only [rest_skip, drop_rest_of_next? h, List.drop_left]

theorem position_nextToken (h : Reading.next? p c.rest = some r) :
    (c.nextToken p).2.position = r.lexemeEnd c.position := by
  rw [nextToken, h]
  simp only [position_skip, rest_skip, take_rest_of_next? h, drop_rest_of_next? h,
    List.take_left, Reading.lexemeEnd, Reading.lexemeStart]

end Lexeme

end Cursor

namespace TokenStream

theorem toList_of_next?_eq_end {s s' : TokenStream} {t : Token} (h : s.next? = some (t, s'))
    (ht : t.isEnd = true) : s.toList = ([t], s') := by
  rw [toList]
  split
  · next hnone => rw [h] at hnone; cases hnone
  · next hsome =>
    rw [h] at hsome
    cases hsome
    rw [dif_pos ht]

theorem toList_of_next?_eq_some {s s' : TokenStream} {t : Token} (h : s.next? = some (t, s'))
    (ht : t.isEnd = false) : s.toList = (t :: s'.toList.1, s'.toList.2) := by
  rw [toList]
  split
  · next hnone => rw [h] at hnone; cases hnone
  · next hsome =>
    rw [h] at hsome
    cases hsome
    rw [dif_neg (by simp [ht])]

/-- The stream of what a cursor has left. -/
def ofCursor (p : Policy) (c : Cursor) : TokenStream := ⟨p, c, none, false⟩

theorem next?_ofCursor (p : Policy) (c : Cursor) :
    (ofCursor p c).next? = some ((c.nextToken p).1,
      { ofCursor p (c.nextToken p).2 with finished := (c.nextToken p).1.isEnd }) := rfl

theorem toList_ofCursor (p : Policy) (c : Cursor) :
    (ofCursor p c).toList.1 =
      tokensFrom p c.position c.rest ++ [.endAt (c.position.after c.rest)] := by
  obtain ⟨text, htext⟩ : ∃ text, c.rest = text := ⟨_, rfl⟩
  fun_induction readings p text generalizing c with
  | case1 text hnone =>
      rw [← htext] at hnone
      have hnext := next?_ofCursor p c
      rw [Cursor.nextToken_of_next?_eq_none hnone] at hnext
      rw [toList_of_next?_eq_end hnext rfl, tokensFrom_of_next?_eq_none hnone, List.nil_append]
  | case2 text r hsome ih =>
      rw [← htext] at hsome
      have hend : (c.nextToken p).1.isEnd = false := by
        rw [Cursor.token_nextToken hsome]
        exact Lexeme.isEnd_token _ _
      have hnext := next?_ofCursor p c
      rw [hend] at hnext
      have hrest := Cursor.rest_nextToken hsome
      have hpos := Cursor.position_nextToken hsome
      have hafter : (r.lexemeEnd c.position).after r.rest = c.position.after c.rest := by
        rw [← Reading.next?_append hsome]
        simp only [Reading.lexemeEnd, Reading.lexemeStart, Position.after_append]
      have hlater := ih (c.nextToken p).2 hrest
      rw [hrest, hpos, hafter] at hlater
      rw [toList_of_next?_eq_some hnext hend, tokensFrom_of_next?_eq_some hsome,
        Cursor.token_nextToken hsome, List.cons_append]
      exact congrArg (List.cons _) hlater

/-- A new stream hands out the tokens of its text and then the end of the text. -/
theorem toList_ofText (p : Policy) (text : List Char) :
    (ofText p text).toList.1 = tokens p text ++ [.endAt (Position.start.after text)] :=
  toList_ofCursor p (Cursor.ofText text 1)

/-- Draining a new stream hands out the tokens of its text and notes how many there are. -/
theorem drain_ofText (p : Policy) (text : List Char) :
    (ofText p text).drain.1 = ⟨.ok (tokens p text), [Token.collected (tokens p text)]⟩ := by
  rw [drain, toList_ofText, Token.drain_append_end (fun _ => isEnd_of_mem_tokens) rfl]

end TokenStream

end UnitScan

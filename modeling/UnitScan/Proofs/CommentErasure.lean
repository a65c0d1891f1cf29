import UnitScan.Proofs.CharacterRoles
import UnitScan.Proofs.ConfiguredPolicies
import UnitScan.Proofs.OpenComments

/-!
# Comments leave no trace

A comment can be taken out of a text, and the tokens stay the same, positions aside. This holds
wherever its marker stands: behind an identifier or a number, behind a number that might go on
with a fraction or an exponent, and in another comment. A marker that is a point is the one
exception, since a number may go on with it. No configuration has this marker.
-/

namespace UnitScan

namespace Policy

variable {p : Policy} {m : Char}

/-- No lexeme goes on with a comment marker, unless the marker is a point. -/
theorem boundary_of_marker (hm : p.marker = some m) (hpoint : m ≠ '.') : p.Boundary m where
  ident := continuesIdent_of_marker hm
  number := by
    apply Numeral.stops_iff.mpr
    refine ⟨?_, hpoint, ?_⟩
    · rw [Bool.eq_false_iff]
      intro hdigit
      exact p.marker_ne_of_isDigit hdigit hm
    · rw [Bool.eq_false_iff]
      intro hmark
      have hletter := isLetter_of_marker hm
      rcases Numeral.Exponent.isMark_iff.mp hmark with rfl | rfl
      · revert hletter
        decide
      · revert hletter
        decide
  sign := by
    rw [Bool.eq_false_iff]
    intro hsign
    rcases Numeral.Exponent.isSign_iff.mp hsign with rfl | rfl
    · exact p.marker_ne_operator .plus hm
    · exact p.marker_ne_operator .dash hm

end Policy

/-- A point continues identifiers under every configuration, so it opens no comment. -/
theorem Configuration.boundary_of_marker {c : Configuration} {p : Policy} (h : c.policy = .ok p)
    {m : Char} (hm : p.marker = some m) : p.Boundary m := by
  apply Policy.boundary_of_marker hm
  rintro rfl
  have hcontinues := Policy.continuesIdent_of_marker hm
  rw [continuesIdent_eq h] at hcontinues
  revert hcontinues
  decide

section Erasure

variable {p : Policy}

/-- From its marker on, a comment is skipped up to the next newline, wherever the marker stands. -/
theorem lexemes_append_marker {m : Char} (hm : p.marker = some m) (hboundary : p.Boundary m)
    (text line : List Char) :
    lexemes p (text ++ m :: line) =
      lexemes p text ++ lexemes p (line.dropWhile (· ≠ '\n')) := by
  have hne := Policy.newline_ne_of_marker hm
  by_cases hopen : CommentOpen p text
  · have hdrop : (m :: line).dropWhile (· ≠ '\n') = line.dropWhile (· ≠ '\n') := by
      simp [hne.symm]
    rw [hopen.lexemes_append (hboundary.head?_cons line), hdrop]
  · rw [lexemes_append_cons hboundary hne hopen, lexemes_of_marker hm]

/-- A newline that no continuation swallows divides the lexemes of a text, also behind a
comment. -/
theorem lexemes_append_newline {text : List Char} (hjoins : ¬p.Joins text) (more : List Char) :
    lexemes p (text ++ '\n' :: more) = lexemes p text ++ lexemes p ('\n' :: more) := by
  have hmore := p.boundary_newline.head?_cons more
  by_cases hopen : CommentOpen p text
  · rw [hopen.lexemes_append hmore]
    rfl
  · exact lexemes_append hmore hopen fun _ => hjoins

end Erasure

/-- Under a configuration with comments, a text that ends in a comment has the tokens of the text
without the comment, up to their positions, wherever the marker stands. So has a text in which a
newline follows the comment, unless the newline would become part of a continuation. -/
theorem map_content_tokens_append_comment {c : Configuration} {p : Policy}
    (h : c.policy = .ok p) {m : Char} (hm : p.marker = some m) (text : List Char)
    {comment : List Char} (hcomment : '\n' ∉ comment) (more : List Char) :
    (tokens p (text ++ m :: comment)).map Token.content = (tokens p text).map Token.content ∧
      (text.getLast? ≠ some '\\' →
        (tokens p (text ++ m :: (comment ++ '\n' :: more))).map Token.content =
          (tokens p (text ++ '\n' :: more)).map Token.content) := by
  have hboundary := Configuration.boundary_of_marker h hm
  have hline := decide_ne_of_notMem hcomment
  simp only [map_content_tokens, lexemes_append_marker hm hboundary]
  constructor
  · rw [List.dropWhile_eq_nil_iff.mpr hline, lexemes_nil, List.append_nil]
  · intro hlast
    have hjoins : ¬p.Joins text := fun hjoins => hlast hjoins.2
    rw [List.dropWhile_append_of_pos hline, lexemes_append_newline hjoins]
    rfl

/-- A comment behind a number that might go on with an exponent, with a backslash at its end, and
the digits of the exponent on the next line. -/
theorem map_content_tokens_append_comment_standard :
    Configuration.policy {} = .ok Policy.standard ∧ Policy.standard.marker = some '#' ∧
      '\n' ∉ "5 # \\".toList ∧ "2 1e+".toList.getLast? ≠ some '\\' ∧
      (tokens Policy.standard ("2 1e+".toList ++ '#' :: "5 # \\".toList)).map Token.content =
        (tokens Policy.standard "2 1e+".toList).map Token.content ∧
      (tokens Policy.standard
          ("2 1e+".toList ++ '#' :: ("5 # \\".toList ++ '\n' :: "6".toList))).map Token.content =
        (tokens Policy.standard ("2 1e+".toList ++ '\n' :: "6".toList)).map Token.content := by
  have hpolicy : Configuration.policy {} = .ok Policy.standard :=
    Policy.Settings.accept_eq_ok_iff.mpr rfl
  have hmarker : Policy.standard.marker = some '#' := by decide
  have hcomment : '\n' ∉ "5 # \\".toList := by decide
  have hlast : "2 1e+".toList.getLast? ≠ some '\\' := by decide
  obtain ⟨hend, hnewline⟩ := map_content_tokens_append_comment hpolicy hmarker "2 1e+".toList
    hcomment "6".toList
  exact ⟨hpolicy, hmarker, hcomment, hlast, hend, hnewline hlast⟩

end UnitScan

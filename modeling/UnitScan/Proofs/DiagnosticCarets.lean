import UnitScan.Proofs.ScanDiagnostics
import Mathlib.Data.List.Forall2

/-!
# Carets stand below stray characters

Tokens, lines and carets count their places each in a way of its own: tokens from one, lines by
splitting the text at its newlines, and carets by the spaces before them. For every error token of
a text the three agree. Its diagnostic quotes the line on which the token stands, and the caret
has the index of the stray character in the quoted line.
-/

namespace UnitScan.Diagnostic

/-- A diagnostic points at a character of a named text: an error token reports the character, the
diagnostic has the line that the token is on, and its text consists of a header with the place, the
line behind four spaces, and a caret below the character. -/
structure PointsAt (text : List Char) (source : String) (t : Token) (x : Char) (line : List Char)
    (caret : Nat) (d : Diagnostic) : Prop where
  payload : t.payload = .text ("unexpected character '" ++ x.toString ++ "'")
  positive : 1 ≤ t.position.line
  onLine : (Text.lines text)[(t.position.line - 1).toNat]? = some line
  sourceLine : d.sourceLine = some (String.ofList line)
  written : d.text = "\n".intercalate
    [source ++ ":" ++ toString t.position.line ++ ":" ++ toString t.position.column ++
        ": error: unexpected character '" ++ x.toString ++ "'",
      "    " ++ String.ofList line,
      String.ofList (List.replicate caret ' ') ++ "^"]
  below : ("    ".toList ++ line)[caret]? = some x

/-! ### The text of a diagnostic -/

/-- The line of a diagnostic is found by its number. -/
theorem lineAt?_eq_some {lines : List (List Char)} {number : Int} {line : List Char}
    (hnumber : 1 ≤ number) (h : lines[(number - 1).toNat]? = some line) :
    lineAt? lines number = some (String.ofList line) := by
  have hindex : (number - 1).toNat = number.toNat - 1 := by omega
  rw [hindex] at h
  rw [lineAt?, if_pos (by omega), h, Option.map_some]

/-- The caret of a column stands behind the indent and behind the columns before its own. -/
theorem caretLine_eq {column : Int} (h : 1 ≤ column) :
    caretLine column = [String.ofList (List.replicate (4 + (column - 1).toNat) ' ') ++ "^"] := by
  have hindex : (column - 1).toNat = column.toNat - 1 := by omega
  have hindent : indent = String.ofList (List.replicate 4 ' ') := by decide
  rw [caretLine, if_pos (by omega), hindex, hindent,
    ← List.replicate_append_replicate, String.ofList_append]

theorem header_ofToken {t : Token} {x : Char}
    (h : t.payload = .text (Lexeme.strayMessage x)) (lines : List (List Char)) (source : String) :
    (ofToken lines source t).header =
      source ++ ":" ++ toString t.position.line ++ ":" ++ toString t.position.column ++
        ": error: unexpected character '" ++ x.toString ++ "'" := by
  have hlead : ": error: unexpected character '" =
      ": " ++ ("error: " ++ "unexpected character '") := by simp
  have hstray : Lexeme.strayMessage x = "unexpected character '" ++ x.toString ++ "'" := rfl
  simp only [header, ofToken, h, hstray, Token.Payload.plain, Option.elim_some, Token.location,
    Location.text, Position.text]
  -- Left to itself, `simp` joins the literals that `hlead` has taken apart.
  rw [hlead]
  simp only [String.append_assoc, -String.reduceAppend]

theorem pointsAt_ofToken {p : Policy} {text : List Char} {t : Token} (h : t ∈ tokens p text)
    (herror : t.isError = true) (source : String) :
    ∃ x line caret,
      PointsAt text source t x line caret (ofToken (Text.lines text) source t) := by
  obtain ⟨x, line, hpayload, hline, hcolumn, hat, hx⟩ := exists_stray_of_mem_tokens h herror
  have hsource : (ofToken (Text.lines text) source t).sourceLine = some (String.ofList line) :=
    lineAt?_eq_some hline hat
  refine ⟨x, line, 4 + (t.position.column - 1).toNat, hpayload, hline, hat, hsource, ?_, ?_⟩
  · have hcontext : (ofToken (Text.lines text) source t).context =
        (indent ++ String.ofList line) :: caretLine t.position.column := by
      rw [context, hsource]
      rfl
    rw [Diagnostic.text, hcontext, header_ofToken hpayload, caretLine_eq hcolumn]
    rfl
  · have hlength : "    ".toList.length = 4 := by decide
    rw [List.getElem?_append_right (by omega), hlength, Nat.add_sub_cancel_left]
    exact hx

/-- The diagnostics that are collected for the tokens of a text, up to any limit, are those of its
first error tokens, one for each, and the first diagnostic is that of the first error token. Each of
them points at the character that its token reports. Collecting fails only at a limit that is
exceeded and cannot be written. -/
theorem pointsAt_collect_first? (p : Policy) (text : List Char) (source : String) (limit : Int) :
    ((∃ c, (collect (tokens p text) text source limit).value = .ok c ∧
          List.Forall₂ (fun t d => ∃ x line caret, PointsAt text source t x line caret d)
            (((tokens p text).filter Token.isError).take limit.toNat) c.errors) ∨
        ((collect (tokens p text) text source limit).value = .error .number ∧
          max limit 0 < Token.errorCount (tokens p text) ∧ ¬Text.Writable limit)) ∧
      Option.Rel (fun t r => ∃ d, r = .ok d ∧ ∃ x line caret, PointsAt text source t x line caret d)
        ((tokens p text).find? Token.isError) (first? (tokens p text) text source) := by
  constructor
  · by_cases hlimit : max limit 0 < Token.errorCount (tokens p text) → Text.Writable limit
    · left
      rw [collect_tokens p text source hlimit]
      refine ⟨_, rfl, ?_⟩
      rw [Collector.filled, ofTokens, ← List.map_take, List.forall₂_map_right_iff,
        List.forall₂_same]
      intro t ht
      obtain ⟨hmem, herror⟩ := List.mem_filter.mp (List.mem_of_mem_take ht)
      exact pointsAt_ofToken hmem herror source
    · right
      obtain ⟨hmore, hunwritable⟩ := Classical.not_imp.mp hlimit
      rw [collect_tokens_eq_error p text source hmore hunwritable]
      exact ⟨rfl, hmore, hunwritable⟩
  · rw [first?]
    cases hfind : (tokens p text).find? Token.isError with
    | none => exact Option.Rel.none
    | some t =>
        have hmem := List.mem_of_find?_eq_some hfind
        have herror := List.find?_some hfind
        exact Option.Rel.some ⟨_, makeOfToken_of_mem_tokens hmem herror source,
          pointsAt_ofToken hmem herror source⟩

/-- Tabs and continued lines count like all other characters. -/
example :
    (first? (tokens .standard "km \\\n\t@ 2".toList) "km \\\n\t@ 2".toList "units.dat").map
        (Except.map text) =
      some (.ok "units.dat:2:2: error: unexpected character '@'\n    \t@ 2\n     ^") := by
  decide +kernel

end UnitScan.Diagnostic

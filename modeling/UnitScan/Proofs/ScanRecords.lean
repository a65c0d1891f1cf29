import UnitScan.Proofs.StreamTokens

/-!
# What a scan logs

A scan logs every stray character when it meets it, and afterwards what the scan came to. The log
and the tokens are made side by side. `records_tokenize` reads the whole log off the tokens: it has
one record for each error token, in the order of the tokens, and one record of their numbers.

## Implementation notes

Draining a stream of tokens counts the errors among them on its own and knows nothing of the scan.
So the last record is taken from there (`events_tokenize`), and that both agree on the number of
errors is a part of the result.
-/

namespace UnitScan

/-- The event that a scan notes with an error token. -/
def Token.strayEvent (t : Token) : Log.Event := .stray t.position t.payload.plain

/-- Meeting a lexeme is an event exactly if the token of the lexeme is an error. -/
theorem Lexeme.events_note (l : Lexeme) (pos : Position) :
    (l.note pos).events = ([l.token pos].filter Token.isError).map Token.strayEvent := by
  cases l <;> rfl

/-- The events of a scan are those of its error tokens, in the order of the tokens. -/
theorem events_scanFrom (p : Policy) (start : Position) (text : List Char) :
    (scanFrom p start text).events =
      ((tokensFrom p start text).filter Token.isError).map Token.strayEvent := by
  fun_induction readings p text generalizing start with
  | case1 text hnone =>
      rw [scanFrom_of_next?_eq_none hnone, tokensFrom_of_next?_eq_none hnone]
      rfl
  | case2 text r hsome ih =>
      calc
        (scanFrom p start text).events =
            (r.lexeme.note (r.lexemeStart start)).events ++
              (scanFrom p (r.lexemeEnd start) r.rest).events := by
          rw [scanFrom_of_next?_eq_some hsome]
          simp only [Logged.events_bind, Logged.events_pure, List.append_nil]
        _ = ([r.lexeme.token (r.lexemeStart start)].filter Token.isError).map Token.strayEvent ++
              ((tokensFrom p (r.lexemeEnd start) r.rest).filter Token.isError).map
                Token.strayEvent := by
          rw [Lexeme.events_note, ih]
        _ = ((tokensFrom p start text).filter Token.isError).map Token.strayEvent := by
          rw [tokensFrom_of_next?_eq_some hsome, ← List.map_append, ← List.filter_append,
            List.singleton_append]

/-- The log of a text is that of its scan and that of draining the stream of its tokens. -/
theorem events_tokenize (p : Policy) (text : List Char) :
    (tokenize p text).events =
      (scanFrom p .start text).events ++ (TokenStream.ofText p text).drain.1.events := by
  rw [TokenStream.drain_ofText]
  rfl

/-- The log of a text has one record for each error token, in the order of the tokens, with the
position of the token and what it carries. After these it has one record with the number of all
tokens and the number of the records before it. -/
theorem records_tokenize (p : Policy) (text : List Char) :
    ∃ reports : List Log.Record,
      reports = ((tokens p text).filter Token.isError).map (fun t =>
        ⟨.debug, "unitlex.lexer.scanner", toString t.position.line ++ ":" ++
          toString t.position.column ++ ": " ++ t.payload.plain⟩) ∧
      (tokenize p text).records = reports ++
        [⟨.debug, "unitlex.lexer.driver", "collected " ++ toString (tokens p text).length ++
          " tokens (" ++ toString reports.length ++ " errors)"⟩] := by
  refine ⟨_, rfl, ?_⟩
  rw [Logged.records, events_tokenize, events_scanFrom, TokenStream.drain_ofText, List.map_append,
    List.map_map, ← tokens_eq]
  -- Draining counts the error tokens, the scan has made one record for each of them.
  rw [List.length_map, ← List.countP_eq_length_filter]
  rfl

end UnitScan

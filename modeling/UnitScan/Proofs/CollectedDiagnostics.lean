import UnitScan.Diagnostic.OfTokens
import UnitScan.Scan
import Mathlib.Algebra.Group.Int.Defs
import Mathlib.Control.Monad.Basic

/-!
# What a collector keeps

A stream of tokens has one diagnostic for each of its error tokens. A strict reader stops at the
first of them. A collector that is filled until it refuses one keeps the first of them, as many as
it has room for, and it refuses exactly when there are more.

Collecting fails where something has no text: a diagnostic that is to be kept, the first one that is
refused, or the limit when there is something to refuse. What comes later is not looked at.
-/

namespace UnitScan.Diagnostic

/-- The diagnostics for all error tokens, in order. -/
def ofTokens (tokens : List Token) (text : List Char) (source : String) : List Diagnostic :=
  (tokens.filter Token.isError).map (ofToken (Text.lines text) source)

theorem length_ofTokens (tokens : List Token) (text : List Char) (source : String) :
    (ofTokens tokens text source).length = Token.errorCount tokens := by
  rw [ofTokens, List.length_map, Token.errorCount, List.countP_eq_length_filter]

/-- The diagnostics for all error tokens, as far as they can be made. -/
def makeOfTokens (tokens : List Token) (text : List Char) (source : String) :
    List (Except Text.Unwritable Diagnostic) :=
  (tokens.filter Token.isError).map (makeOfToken (Text.lines text) source)

theorem first?_eq_head? (tokens : List Token) (text : List Char) (source : String) :
    first? tokens text source = (makeOfTokens tokens text source).head? := by
  rw [first?, makeOfTokens, List.head?_map, List.head?_filter]

theorem ofTokens_eq_nil_iff {tokens : List Token} {text : List Char} {source : String} :
    ofTokens tokens text source = [] ↔ ∀ t ∈ tokens, t.isError = false := by
  rw [ofTokens, List.map_eq_nil_iff, List.filter_eq_nil_iff]
  simp only [Bool.not_eq_true]

/-- There is a first diagnostic unless no token is an error. -/
theorem first?_eq_none_iff {tokens : List Token} {text : List Char} {source : String} :
    first? tokens text source = none ↔ ∀ t ∈ tokens, t.isError = false := by
  rw [first?, Option.map_eq_none_iff, List.find?_eq_none]
  simp only [Bool.not_eq_true]

/-! ### Diagnostics that can be made -/

theorem make_eq_ok {d : Diagnostic} (h : d.fault? = none) : d.make = .ok d := by
  rw [make, h]

/-- A diagnostic that is made has the parts that it was to be made of. -/
theorem eq_of_make_eq_ok {d made : Diagnostic} (h : d.make = .ok made) : made = d := by
  unfold make at h
  split at h
  · cases h
  · cases h
    rfl

theorem eq_ofToken {lines : List (List Char)} {source : String} {t : Token} {made : Diagnostic}
    (h : makeOfToken lines source t = .ok made) : made = ofToken lines source t := by
  unfold makeOfToken at h
  split at h
  · cases h
    rfl
  · exact eq_of_make_eq_ok h

/-- Among the numbers of a token, only those of its place can be too large, and the caret can stand
too far to the right only if there is a line to stand below. -/
theorem fault?_ofToken_eq_none_iff {lines : List (List Char)} {source : String} {t : Token} :
    (ofToken lines source t).fault? = none ↔
      Text.Writable t.position.line ∧ Text.Writable t.position.column ∧
        ((lineAt? lines t.position.line).isSome = true →
          t.position.column + 3 < Text.lengthLimit) := by
  obtain ⟨kind, payload, line, column⟩ := t
  have hindent : (indent.length : Int) = 4 := by decide
  have hcaret : (Text.lengthLimit : Int) ≤ 4 + column - 1 ↔ ¬column + 3 < Text.lengthLimit := by
    omega
  simp only [fault?, ofToken, Token.location, hindent, hcaret, ← and_assoc]
  by_cases hplace : Text.Writable line ∧ Text.Writable column
  · rw [if_neg (not_not_intro hplace)]
    simp [hplace]
  · rw [if_pos hplace]
    simp [hplace]

/-- The diagnostics of all the tokens can be made. -/
def Makes (text : List Char) (source : String) (tokens : List Token) : Prop :=
  ∀ t ∈ tokens, ∃ d, makeOfToken (Text.lines text) source t = .ok d

/-- If diagnostics can be made, they have the parts that they were to be made of. -/
theorem Makes.map_makeOfToken {text : List Char} {source : String} {tokens : List Token}
    (h : Makes text source tokens) :
    tokens.map (makeOfToken (Text.lines text) source) =
      (tokens.map (ofToken (Text.lines text) source)).map .ok := by
  rw [List.map_map]
  apply List.map_congr_left
  intro t ht
  obtain ⟨d, hd⟩ := h t ht
  rw [hd, eq_ofToken hd, Function.comp_apply]

/-- The first diagnostic is made if all that are looked at can be made. -/
theorem first?_eq_map_ok {tokens : List Token} {text : List Char} {source : String} {n : Nat}
    (h : Makes text source ((tokens.filter Token.isError).take (n + 1))) :
    first? tokens text source = (ofTokens tokens text source).head?.map .ok := by
  rw [first?_eq_head?, makeOfTokens, ofTokens]
  cases herrors : tokens.filter Token.isError with
  | nil => rfl
  | cons t later =>
      rw [herrors, List.take_succ_cons, Makes, List.forall_mem_cons] at h
      obtain ⟨⟨d, hd⟩, -⟩ := h
      rw [List.map_cons, List.map_cons, List.head?_cons, List.head?_cons, Option.map_some, hd,
        eq_ofToken hd]

/-! ### Reports -/

/-- Texts with an empty line after each of them. -/
def paragraphs (texts : List String) : String := String.join (texts.map (· ++ "\n\n"))

theorem paragraphs_cons (text : String) (later : List String) :
    paragraphs (text :: later) = text ++ "\n\n" ++ paragraphs later :=
  String.join_cons

/-- The last line of a report: the number of diagnostics shown, and whether there are more. -/
def countLine (count : Nat) (more : Bool) : String :=
  toString count ++ (if count = 1 then " error" else " errors") ++
    (if more then " (stopped after limit)" else "")

namespace Collector

/-- How many more diagnostics a collector keeps. A limit that is not positive leaves no room. -/
def room (c : Collector) : Nat := (c.limit - c.errors.length).toNat

variable {c : Collector}

theorem add_of_room_eq_zero (h : c.room = 0) (d : Diagnostic) :
    c.add d = (.error (.ofLimit c.limit), { c with truncated := true }) := by
  have hfull : c.limit ≤ c.errors.length := by
    rw [room] at h
    omega
  rw [add, if_pos hfull]

theorem add_of_room_pos (h : 0 < c.room) (d : Diagnostic) :
    c.add d = (.ok (), { c with errors := c.errors ++ [d] }) := by
  have hroom : ¬c.limit ≤ c.errors.length := by
    rw [room] at h
    omega
  rw [add, if_neg hroom]

theorem room_append_singleton (d : Diagnostic) :
    room { c with errors := c.errors ++ [d] } = c.room - 1 := by
  simp only [room, List.length_append, List.length_singleton]
  omega

/-- As long as there is room, diagnostics that can be made are kept. -/
theorem addUntilFull_map_append {ds : List Diagnostic} (h : ds.length ≤ c.room)
    (later : List (Except Text.Unwritable Diagnostic)) :
    c.addUntilFull (ds.map .ok ++ later) =
      addUntilFull { c with errors := c.errors ++ ds } later := by
  induction ds generalizing c with
  | nil => rw [List.map_nil, List.nil_append, List.append_nil]
  | cons d ds ih =>
      have hpos : 0 < c.room := Nat.lt_of_lt_of_le (Nat.succ_pos _) h
      have hroom : ds.length ≤ room { c with errors := c.errors ++ [d] } := by
        rw [room_append_singleton]
        exact Nat.le_sub_one_of_lt h
      rw [List.map_cons, List.cons_append, addUntilFull, add_of_room_pos hpos]
      simp only [ih hroom, List.append_assoc, List.singleton_append]

/-- The refusal of a diagnostic is remembered and noted once. -/
theorem addUntilFull_of_writable (hroom : c.room = 0) (hlimit : Text.Writable c.limit)
    (d : Diagnostic) (later : List (Except Text.Unwritable Diagnostic)) :
    c.addUntilFull (.ok d :: later) =
      ⟨.ok { c with truncated := true }, [.limitReached c.limit]⟩ := by
  rw [addUntilFull, add_of_room_eq_zero hroom, Refusal.ofLimit, if_pos hlimit]
  rfl

/-- A diagnostic is not refused with a limit that cannot be written. -/
theorem addUntilFull_of_not_writable (hroom : c.room = 0) (hlimit : ¬Text.Writable c.limit)
    (d : Diagnostic) (later : List (Except Text.Unwritable Diagnostic)) :
    c.addUntilFull (.ok d :: later) = ⟨.error .number, []⟩ := by
  rw [addUntilFull, add_of_room_eq_zero hroom, Refusal.ofLimit, if_neg hlimit]
  rfl

theorem summary_eq (c : Collector) : c.summary = countLine c.errors.length c.truncated := rfl

/-- A report is the paragraphs of the diagnostics that are kept and the summary. -/
theorem report_eq_append (c : Collector) :
    c.report = paragraphs (c.errors.map Diagnostic.text) ++ c.summary := by
  have hblank : "\n\n" = "\n" ++ "\n" := by decide
  rw [report]
  induction c.errors with
  | nil => simp [paragraphs]
  | cons d later ih =>
      obtain ⟨next, lines, hlines⟩ :
          ∃ next lines, later.flatMap (fun d => [d.text, ""]) ++ [c.summary] = next :: lines :=
        List.exists_cons_of_ne_nil (by simp)
      rw [hlines] at ih
      rw [List.flatMap_cons, List.append_assoc, hlines, List.cons_append, List.cons_append,
        List.nil_append, String.intercalate_cons_cons, String.intercalate_cons_cons, ih,
        List.map_cons, paragraphs_cons, hblank]
      simp only [String.append_assoc, String.empty_append, -String.reduceAppend]

/-- A new collector of the given limit that was filled with diagnostics, and what was noted of it. -/
def filled (limit : Int) (ds : List Diagnostic) : Logged Collector where
  value :=
    { limit
      errors := ds.take limit.toNat
      truncated := decide (limit.toNat < ds.length) }
  events := if limit.toNat < ds.length then [.limitReached limit] else []

section Filled

variable {limit : Int} (ds : List Diagnostic)

theorem room_mk (limit : Int) (ds : List Diagnostic) :
    room { limit, errors := ds } = limit.toNat - ds.length := by
  simp only [room]
  omega

theorem filled_of_le (h : ds.length ≤ limit.toNat) :
    filled limit ds = ⟨{ limit, errors := ds }, []⟩ := by
  rw [filled, List.take_of_length_le h, if_neg (Nat.not_lt.mpr h),
    decide_eq_false (Nat.not_lt.mpr h)]

theorem filled_of_lt (h : limit.toNat < ds.length) :
    filled limit ds =
      ⟨{ limit, errors := ds.take limit.toNat, truncated := true }, [.limitReached limit]⟩ := by
  rw [filled, if_pos h, decide_eq_true h]

theorem errors_filled_prefix (limit : Int) : (filled limit ds).value.errors <+: ds :=
  List.take_prefix ..

theorem length_errors_filled (h : 0 ≤ limit) :
    ((filled limit ds).value.errors.length : Int) = min (ds.length : Int) limit := by
  rw [filled, List.length_take]
  omega

theorem truncated_filled : (filled limit ds).value.truncated = true ↔ max limit 0 < ds.length := by
  rw [filled, decide_eq_true_eq]
  omega

theorem truncated_filled_iff (h : 0 ≤ limit) :
    (filled limit ds).value.truncated = true ↔ limit < ds.length := by
  rw [truncated_filled, Int.max_eq_left h]

/-- A collector with a positive limit is empty only if there is nothing to keep. -/
theorem hasErrors_filled_iff (h : 1 ≤ limit) :
    (filled limit ds).value.hasErrors = true ↔ ds ≠ [] := by
  have hpos : limit.toNat ≠ 0 := by omega
  rw [hasErrors, Bool.not_eq_true', List.isEmpty_eq_false_iff, filled, ne_eq, List.take_eq_nil_iff]
  simp only [hpos, false_or]

end Filled

end Collector

/-! ### Collecting -/

section Collecting

variable {tokens before later : List Token} {text : List Char} {source : String} {limit : Int}

/-- As far as there is room and diagnostics can be made, collecting keeps them. -/
theorem collect_eq_addUntilFull (h : tokens.filter Token.isError = before ++ later)
    (hroom : before.length ≤ limit.toNat)
    (hmakes : Makes text source before) :
    collect tokens text source limit =
      Collector.addUntilFull
        { limit, errors := before.map (ofToken (Text.lines text) source) }
        (later.map (makeOfToken (Text.lines text) source)) := by
  have hstart : (before.map (ofToken (Text.lines text) source)).length ≤
      Collector.room { limit } := by
    rwa [List.length_map, Collector.room_mk, List.length_nil, Nat.sub_zero]
  rw [collect, h, List.map_append, hmakes.map_makeOfToken,
    Collector.addUntilFull_map_append hstart, List.nil_append]

/-- Collecting fails at the first diagnostic that cannot be made, if it gets there. -/
theorem collect_eq_error {t : Token} {fault : Text.Unwritable}
    (h : tokens.filter Token.isError = before ++ t :: later)
    (hroom : before.length ≤ limit.toNat)
    (hmakes : Makes text source before)
    (hfault : makeOfToken (Text.lines text) source t = .error fault) :
    collect tokens text source limit = ⟨.error fault, []⟩ := by
  rw [collect_eq_addUntilFull h hroom hmakes, List.map_cons, hfault]
  rfl

/-- If there are more error tokens than the limit allows, one more is looked at. -/
theorem exists_filter_eq_append (h : limit.toNat < Token.errorCount tokens) :
    ∃ before t later, tokens.filter Token.isError = before ++ t :: later ∧
      before.length = limit.toNat ∧
      (tokens.filter Token.isError).take (limit.toNat + 1) = before ++ [t] := by
  rw [Token.errorCount, List.countP_eq_length_filter] at h
  refine ⟨(tokens.filter Token.isError).take limit.toNat,
    (tokens.filter Token.isError)[limit.toNat],
    (tokens.filter Token.isError).drop (limit.toNat + 1), ?_, ?_, ?_⟩
  · rw [← List.drop_eq_getElem_cons h, List.take_append_drop]
  · exact List.length_take_of_le (Nat.le_of_lt h)
  · exact List.take_succ_eq_append_getElem h

/-- If there are more error tokens than the limit allows, collecting comes to a full collector and
one more diagnostic. -/
theorem exists_collect_eq_addUntilFull
    (hmakes : Makes text source ((tokens.filter Token.isError).take (limit.toNat + 1)))
    (hmore : limit.toNat < Token.errorCount tokens) :
    ∃ (c : Collector) (d : Diagnostic) (later : List (Except Text.Unwritable Diagnostic)),
      c = { limit, errors := (ofTokens tokens text source).take limit.toNat } ∧ c.room = 0 ∧
        collect tokens text source limit = c.addUntilFull (.ok d :: later) := by
  obtain ⟨before, t, later, hsplit, hlength, htake⟩ := exists_filter_eq_append hmore
  rw [htake, Makes, List.forall_mem_append, List.forall_mem_singleton] at hmakes
  obtain ⟨hbefore, d, hd⟩ := hmakes
  have hkept : (ofTokens tokens text source).take limit.toNat =
      before.map (ofToken (Text.lines text) source) := by
    rw [ofTokens, hsplit, List.map_append, List.take_left' (by rw [List.length_map, hlength])]
  refine ⟨_, d, later.map (makeOfToken (Text.lines text) source), rfl, ?room, ?collect⟩
  case room => rw [Collector.room_mk, hkept, List.length_map, hlength, Nat.sub_self]
  case collect =>
    rw [collect_eq_addUntilFull hsplit (Nat.le_of_eq hlength) hbefore, hkept, List.map_cons, hd]

/-- If everything that is looked at can be made, and the limit can be written where it is exceeded,
then the first diagnostics are kept, as many as the limit allows. -/
theorem collect_eq_filled
    (hmakes : Makes text source ((tokens.filter Token.isError).take (limit.toNat + 1)))
    (hlimit : limit.toNat < Token.errorCount tokens → Text.Writable limit) :
    collect tokens text source limit =
      ⟨.ok (Collector.filled limit (ofTokens tokens text source)).value,
        (Collector.filled limit (ofTokens tokens text source)).events⟩ := by
  rcases Nat.lt_or_ge limit.toNat (Token.errorCount tokens) with hmore | hall
  · obtain ⟨c, d, later, rfl, hfull, hcollect⟩ := exists_collect_eq_addUntilFull hmakes hmore
    rw [hcollect, Collector.addUntilFull_of_writable hfull (hlimit hmore),
      Collector.filled_of_lt _ (by rwa [length_ofTokens])]
  · have hlength : (tokens.filter Token.isError).length ≤ limit.toNat := by
      rwa [← List.countP_eq_length_filter]
    rw [List.take_of_length_le (Nat.le_succ_of_le hlength)] at hmakes
    rw [collect_eq_addUntilFull (List.append_nil _).symm hlength hmakes,
      Collector.filled_of_le _ (by rwa [length_ofTokens])]
    rfl

/-- Collecting fails at a limit that is exceeded and cannot be written. -/
theorem collect_eq_error_of_not_writable
    (hmakes : Makes text source ((tokens.filter Token.isError).take (limit.toNat + 1)))
    (hmore : limit.toNat < Token.errorCount tokens) (hlimit : ¬Text.Writable limit) :
    collect tokens text source limit = ⟨.error .number, []⟩ := by
  obtain ⟨c, d, later, rfl, hfull, hcollect⟩ := exists_collect_eq_addUntilFull hmakes hmore
  rw [hcollect, Collector.addUntilFull_of_not_writable hfull hlimit]

end Collecting

/-- Whatever tokens it is given, a collector keeps the diagnostics of the first error tokens, as
many as there are and as the limit allows. This takes that these and the next one can be made, which
the first part grants for places that can be written and carets that can be placed, and that the
limit can be written if it is exceeded. Otherwise the first diagnostic that cannot be made ends the
collecting, or else the limit does. A strict reader stops exactly if there is an error token. -/
theorem collect_keeps_first (tokens : List Token) (text : List Char) (source : String)
    (limit : Int) :
    (∀ t : Token, Text.Writable t.position.line → Text.Writable t.position.column →
        ((lineAt? (Text.lines text) t.position.line).isSome = true →
          t.position.column + 3 < Text.lengthLimit) →
        Makes text source [t]) ∧
      (Makes text source ((tokens.filter Token.isError).take ((max limit 0).toNat + 1)) →
        (max limit 0 < Token.errorCount tokens → Text.Writable limit) →
        ∃ c, (collect tokens text source limit).value = .ok c ∧
          c.errors =
            ((tokens.filter Token.isError).take
              (min (Token.errorCount tokens) (max limit 0).toNat)).map
                (ofToken (Text.lines text) source) ∧
          (c.truncated = true ↔ max limit 0 < Token.errorCount tokens) ∧
          ((collect tokens text source limit).events.map fun e => (e.level, e.message)) =
            (if c.truncated then [(.debug, "error limit of " ++ toString limit ++ " reached")]
            else []) ∧
          (1 ≤ limit → first? tokens text source = c.errors.head?.map .ok)) ∧
      (∀ before t later fault, tokens.filter Token.isError = before ++ t :: later →
        before.length ≤ (max limit 0).toNat → Makes text source before →
        makeOfToken (Text.lines text) source t = .error fault →
        collect tokens text source limit = ⟨.error fault, []⟩) ∧
      (Makes text source ((tokens.filter Token.isError).take ((max limit 0).toNat + 1)) →
        max limit 0 < Token.errorCount tokens → ¬Text.Writable limit →
        collect tokens text source limit = ⟨.error .number, []⟩) ∧
      ((first? tokens text source).isSome = true ↔ 0 < Token.errorCount tokens) := by
  have hcount : Token.errorCount tokens = (tokens.filter Token.isError).length :=
    List.countP_eq_length_filter
  have hroom : (max limit 0).toNat = limit.toNat := by omega
  have hmore : max limit 0 < Token.errorCount tokens ↔ limit.toNat < Token.errorCount tokens := by
    omega
  rw [hroom, hmore]
  refine ⟨?makes, ?kept, ?fault, ?limit, ?strict⟩
  case makes =>
    intro t hline hcolumn hcaret
    have hfault : (ofToken (Text.lines text) source t).fault? = none :=
      fault?_ofToken_eq_none_iff.mpr ⟨hline, hcolumn, hcaret⟩
    rw [Makes, List.forall_mem_singleton, makeOfToken]
    split
    · exact ⟨_, rfl⟩
    · exact ⟨_, make_eq_ok hfault⟩
  case kept =>
    intro hmakes hlimit
    rw [collect_eq_filled hmakes hlimit]
    refine ⟨_, rfl, ?_, ?_, ?_, ?_⟩
    · rw [Collector.filled, hcount, Nat.min_comm, ← List.take_take, List.take_length,
        List.map_take]
      rfl
    · rw [Collector.truncated_filled, length_ofTokens, hmore]
    · rw [Collector.filled, length_ofTokens]
      by_cases htruncated : limit.toNat < Token.errorCount tokens
      · rw [if_pos htruncated, if_pos (decide_eq_true htruncated)]
        rfl
      · rw [if_neg htruncated, if_neg (mt of_decide_eq_true htruncated)]
        rfl
    · intro hlimit
      have hpos : limit.toNat ≠ 0 := by omega
      rw [first?_eq_map_ok hmakes, Collector.filled, List.head?_take, if_neg hpos]
  case fault =>
    intro before t later fault hsplit hlength hmakes hfault
    exact collect_eq_error hsplit hlength hmakes hfault
  case limit =>
    intro hmakes hmore hlimit
    exact collect_eq_error_of_not_writable hmakes hmore hlimit
  case strict =>
    rw [first?_eq_head?, List.isSome_head?, ← List.length_pos_iff, makeOfTokens, List.length_map,
      hcount]

/-- An error token that no scan makes: it carries a number and stands where no text has a line. -/
def adrift : Token := ⟨.error, .number ⟨"1", none, none⟩, ⟨7, 0⟩⟩

/-- An error token that no scan makes: its caret would stand beyond the length of every text. -/
def farRight : Token := ⟨.error, .text "x", ⟨1, 2 ^ 63 - 3⟩⟩

/-- What cannot be made is no obstacle behind the first diagnostic that is refused, but it is one
there, and so is the limit. -/
theorem collect_keeps_first_farRight :
    Makes ['a'] "m" [adrift, adrift] ∧ Text.Writable 1 ∧
      (∃ c, (collect [adrift, adrift, farRight] ['a'] "m" 1).value = .ok c ∧
        c.errors = [ofToken [['a']] "m" adrift] ∧ c.truncated = true ∧
        first? [adrift, adrift, farRight] ['a'] "m" = c.errors.head?.map .ok) ∧
      makeOfToken [['a']] "m" farRight = .error .padding ∧
      collect [adrift, farRight] ['a'] "m" 1 = ⟨.error .padding, []⟩ ∧
      ¬Text.Writable (-10 ^ 4300) ∧
      collect [adrift] ['a'] "m" (-10 ^ 4300) = ⟨.error .number, []⟩ := by
  obtain ⟨hplaces, hkept, -, -, -⟩ := collect_keeps_first [adrift, adrift, farRight] ['a'] "m" 1
  have hadrift : Makes ['a'] "m" [adrift] :=
    hplaces adrift (by decide +kernel) (by decide +kernel) (by decide +kernel)
  have hmakes : Makes ['a'] "m" [adrift, adrift] :=
    List.forall_mem_cons.mpr ⟨hadrift adrift List.mem_cons_self, hadrift⟩
  have hlimit : Text.Writable 1 := by decide +kernel
  obtain ⟨c, hc, herrors, htruncated, -, hfirst⟩ := hkept hmakes fun _ => hlimit
  obtain ⟨-, -, hfault, -, -⟩ := collect_keeps_first [adrift, farRight] ['a'] "m" 1
  have hfar : makeOfToken [['a']] "m" farRight = .error .padding := by decide +kernel
  obtain ⟨-, -, -, hlong, -⟩ := collect_keeps_first [adrift] ['a'] "m" (-10 ^ 4300)
  have hunwritable : ¬Text.Writable (-10 ^ 4300) := by decide +kernel
  have hmore : max (-10 ^ 4300) 0 < (Token.errorCount [adrift] : Int) := by decide +kernel
  have hlooked :
      ([adrift].filter Token.isError).take ((max (-10 ^ 4300) 0 : Int).toNat + 1) = [adrift] := by
    decide +kernel
  rw [hlooked] at hlong
  refine ⟨hmakes, hlimit, ⟨c, hc, herrors, htruncated.mpr (by decide), hfirst (by decide)⟩, hfar,
    hfault [adrift] farRight [] .padding (by decide) (by decide) hadrift hfar, hunwritable, ?_⟩
  exact hlong hadrift hmore hunwritable

/-- A caret too far to the right and a limit that cannot be written end a run that should have
refused a diagnostic. -/
theorem collect_eq_error_farRight :
    Token.errorCount [farRight] = 1 ∧
      (collect [farRight] ['a'] "m" 0).value = .error .padding ∧
      (collect [adrift] ['a'] "m" (-10 ^ 4300)).value = .error .number := by
  decide +kernel

end UnitScan.Diagnostic

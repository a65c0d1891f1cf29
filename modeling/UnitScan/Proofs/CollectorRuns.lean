import UnitScan.Proofs.CollectedDiagnostics
import Mathlib.Data.List.DropRight

/-!
# Runs of a collector

A collector may be added to, cleared and asked for its report in any order, and it goes on after it
has refused a diagnostic. At every point of such a run its state and its answers follow from its
limit and from what was added since it was last cleared, and `answers_eq_mapIdx_due` says how.

A diagnostic is made before it is added, and one that cannot be made does not get to the collector.
A collector whose limit cannot be written fails where it should have refused a diagnostic, and this
changes only its answer.

## Implementation notes

`holding` computes a collector from its limit and the diagnostics that were added to it, without
running it. Every request takes such a collector to another one (`answer_holding`), and this is all
that the inductions over a run need. The diagnostics added include the refused ones. A collector
forgets how many those were, so they are read off the requests and not off the collector.
-/

namespace UnitScan.Diagnostic

namespace Collector

/-! ### Requests -/

/-- What a collector is asked to do. -/
inductive Request
  | add (d : Diagnostic)
  | clear
  | report
  deriving DecidableEq, Repr

/-- The diagnostic that a request adds, if it adds one. -/
def Request.added? : Request → Option Diagnostic
  | add d => d.make.toOption
  | clear => none
  | report => none

/-- What a collector answers. -/
inductive Answer
  | done
  | refused (r : Refusal)
  /-- The diagnostic to add cannot be made. -/
  | unmade (fault : Text.Unwritable)
  | text (report : String)
  deriving DecidableEq, Repr

/-- The answer of a collector to a request, and the collector after it. -/
def answer (c : Collector) : Request → Answer × Collector
  | .add d =>
    match d.make with
    | .error fault => (.unmade fault, c)
    | .ok d =>
      match c.add d with
      | (.ok (), c) => (.done, c)
      | (.error r, c) => (.refused r, c)
  | .clear => (.done, c.clear)
  | .report => (.text c.report, c)

/-- The answers to requests made one after the other. -/
def answers (c : Collector) : List Request → List Answer
  | [] => []
  | r :: rs => (c.answer r).1 :: (c.answer r).2.answers rs

/-- The collector after requests made one after the other. -/
def after (c : Collector) (rs : List Request) : Collector :=
  rs.foldl (fun c r => (c.answer r).2) c

/-! ### What a run comes to -/

/-- The diagnostics added since the last clearing, whether they were kept or refused. -/
def added (rs : List Request) : List Diagnostic :=
  (rs.rtakeWhile (· ≠ .clear)).filterMap Request.added?

/-- How many diagnostics a limit allows, which is none if the limit is not positive. -/
def capacity (limit : Int) : Nat := (max limit 0).toNat

/-- The collector of a limit to which the given diagnostics were added since it was last cleared. -/
def holding (limit : Int) (ds : List Diagnostic) : Collector where
  limit
  errors := ds.take (min ds.length (capacity limit))
  truncated := decide (capacity limit < ds.length)

/-- The answer that is due to a request, if the given diagnostics were added since the last
clearing. A diagnostic is refused when as many are kept as the limit allows, for this reason if the
limit can be written. -/
def due (limit : Int) (ds : List Diagnostic) : Request → Answer
  | .add d =>
    match d.make with
    | .error fault => .unmade fault
    | .ok _ =>
      if min ds.length (capacity limit) = capacity limit then
        .refused (if Text.Writable limit then .full limit else .unwritable .number)
      else .done
  | .clear => .done
  | .report =>
    .text (paragraphs ((ds.take (min ds.length (capacity limit))).map Diagnostic.text) ++
      countLine (min ds.length (capacity limit)) (decide (capacity limit < ds.length)))

section Added

variable (before : List Request)

theorem added_append_add {d made : Diagnostic} (h : d.make = .ok made) :
    added (before ++ [.add d]) = added before ++ [made] := by
  have hadded : (Request.add d).added? = some made := by
    rw [Request.added?, h]
    rfl
  rw [added, List.rtakeWhile_concat_pos _ _ _ (by simp), List.filterMap_append,
    List.filterMap_cons_some hadded]
  rfl

/-- What cannot be made is not added. -/
theorem added_append_unmade {d : Diagnostic} {fault : Text.Unwritable}
    (h : d.make = .error fault) : added (before ++ [.add d]) = added before := by
  have hadded : (Request.add d).added? = none := by
    rw [Request.added?, h]
    rfl
  rw [added, List.rtakeWhile_concat_pos _ _ _ (by simp), List.filterMap_append,
    List.filterMap_cons_none hadded]
  exact List.append_nil _

theorem added_append_clear : added (before ++ [.clear]) = [] := by
  rw [added, List.rtakeWhile_concat_neg _ _ _ (by simp), List.filterMap_nil]

theorem added_append_report : added (before ++ [.report]) = added before := by
  rw [added, List.rtakeWhile_concat_pos _ _ _ (by simp), List.filterMap_append]
  exact List.append_nil _

end Added

section Holding

variable {limit : Int} {ds : List Diagnostic}

theorem holding_nil (limit : Int) : holding limit [] = { limit } := by
  simp [holding]

theorem length_errors_holding (limit : Int) (ds : List Diagnostic) :
    (holding limit ds).errors.length = min ds.length (capacity limit) := by
  rw [holding, List.length_take]
  omega

theorem room_holding (limit : Int) (ds : List Diagnostic) :
    (holding limit ds).room = capacity limit - ds.length := by
  have hlimit : (holding limit ds).limit = limit := rfl
  rw [room, length_errors_holding, hlimit, capacity]
  omega

/-- As long as the limit allows it, a collector keeps all. -/
theorem holding_of_le (h : ds.length ≤ capacity limit) :
    holding limit ds = { limit, errors := ds } := by
  simp only [holding, Nat.min_eq_left h, List.take_length, decide_eq_false (Nat.not_lt.mpr h)]

/-- A collector that keeps as many as its limit allows keeps the same of more. -/
theorem holding_append_of_le (h : capacity limit ≤ ds.length) (d : Diagnostic) :
    holding limit (ds ++ [d]) = { holding limit ds with truncated := true } := by
  have hmin : min ds.length (capacity limit) = capacity limit := Nat.min_eq_right h
  have hmin' : min (ds.length + 1) (capacity limit) = capacity limit :=
    Nat.min_eq_right (Nat.le_succ_of_le h)
  simp only [holding, List.length_append, List.length_singleton, hmin, hmin',
    List.take_append_of_le_length h, decide_eq_true (Nat.lt_succ_of_le h)]

end Holding

/-! ### Single requests -/

theorem answer_holding_add {d made : Diagnostic} (h : d.make = .ok made) (limit : Int)
    (ds : List Diagnostic) :
    (holding limit ds).answer (.add d) =
      (due limit ds (.add d), holding limit (ds ++ [made])) := by
  rcases Nat.lt_or_ge ds.length (capacity limit) with hlt | hge
  · have hroom : 0 < (holding limit ds).room := by
      rw [room_holding]
      omega
    have hdue : due limit ds (.add d) = .done := by
      rw [due, h]
      exact if_neg (by omega)
    have hmore : (ds ++ [made]).length ≤ capacity limit := by
      rw [List.length_append, List.length_singleton]
      exact hlt
    simp only [answer, h]
    rw [add_of_room_pos hroom, hdue, holding_of_le hmore, holding_of_le hlt.le]
  · have hroom : (holding limit ds).room = 0 := by
      rw [room_holding]
      omega
    have hdue : due limit ds (.add d) =
        .refused (if Text.Writable limit then .full limit else .unwritable .number) := by
      rw [due, h]
      exact if_pos (by omega)
    simp only [answer, h]
    rw [add_of_room_eq_zero hroom, hdue, holding_append_of_le hge]
    rfl

theorem answer_holding_unmade {d : Diagnostic} {fault : Text.Unwritable} (h : d.make = .error fault)
    (limit : Int) (ds : List Diagnostic) :
    (holding limit ds).answer (.add d) = (due limit ds (.add d), holding limit ds) := by
  rw [answer, due, h]

theorem answer_holding_report (limit : Int) (ds : List Diagnostic) :
    (holding limit ds).answer .report = (due limit ds .report, holding limit ds) := by
  rw [answer, report_eq_append, summary_eq, length_errors_holding]
  rfl

/-- Every request is answered as is due. It takes the collector that the requests before it account
for to the one that they and the request account for. -/
theorem answer_holding (limit : Int) (before : List Request) (r : Request) :
    (holding limit (added before)).answer r =
      (due limit (added before) r, holding limit (added (before ++ [r]))) := by
  cases r with
  | add d =>
      cases hmake : d.make with
      | error fault => rw [added_append_unmade _ hmake, answer_holding_unmade hmake]
      | ok made => rw [added_append_add _ hmake, answer_holding_add hmake]
  | clear =>
      rw [added_append_clear, holding_nil]
      rfl
  | report => rw [added_append_report, answer_holding_report]

/-! ### Runs -/

/-- The collector after a run that goes on from earlier requests. -/
theorem after_holding (limit : Int) (before rs : List Request) :
    after (holding limit (added before)) rs = holding limit (added (before ++ rs)) := by
  induction rs generalizing before with
  | nil =>
      rw [List.append_nil]
      rfl
  | cons r rs ih =>
      calc
        after (holding limit (added before)) (r :: rs) =
            after (holding limit (added (before ++ [r]))) rs := by
          rw [after, List.foldl_cons, answer_holding, after]
        _ = holding limit (added (before ++ [r] ++ rs)) := ih (before ++ [r])
        _ = holding limit (added (before ++ r :: rs)) := by
          rw [List.append_assoc, List.singleton_append]

/-- The answers in a run that goes on from earlier requests. -/
theorem answers_holding (limit : Int) (before rs : List Request) :
    answers (holding limit (added before)) rs =
      rs.mapIdx fun i r => due limit (added (before ++ rs.take i)) r := by
  induction rs generalizing before with
  | nil => rfl
  | cons r rs ih =>
      calc
        answers (holding limit (added before)) (r :: rs) =
            due limit (added before) r ::
              answers (holding limit (added (before ++ [r]))) rs := by
          rw [answers, answer_holding]
        _ = due limit (added before) r ::
              rs.mapIdx fun i r' => due limit (added (before ++ [r] ++ rs.take i)) r' := by
          rw [ih]
        _ = (r :: rs).mapIdx fun i r' => due limit (added (before ++ (r :: rs).take i)) r' := by
          simp only [List.mapIdx_cons, List.take_zero, List.append_nil, List.take_succ_cons,
            List.append_assoc, List.singleton_append]

/-- Whatever a new collector is asked, in whatever order, it answers each request as is due after
the diagnostics added since the last clearing. It holds the first of them, as many as there are and
as the limit allows, and it is marked as truncated exactly when there are more. A diagnostic that
there is no room for does not change what it holds, and a report changes nothing. -/
theorem answers_eq_mapIdx_due (limit : Int) (rs : List Request) :
    answers { limit } rs = rs.mapIdx (fun i r => due limit (added (rs.take i)) r) ∧
      (after { limit } rs).errors =
        (added rs).take (min (added rs).length (capacity limit)) ∧
      ((after { limit } rs).truncated = true ↔ capacity limit < (added rs).length) ∧
      (∀ d, min (added rs).length (capacity limit) = capacity limit →
        (after { limit } (rs ++ [.add d])).errors = (after { limit } rs).errors) ∧
      after { limit } (rs ++ [.report]) = after { limit } rs := by
  have hafter : ∀ rs, after { limit } rs = holding limit (added rs) := by
    intro rs
    rw [← holding_nil]
    exact after_holding limit [] rs
  refine ⟨?answers, ?errors, ?truncated, ?refused, ?report⟩
  case answers =>
    rw [← holding_nil]
    exact answers_holding limit [] rs
  case errors =>
    rw [hafter]
    rfl
  case truncated =>
    rw [hafter, holding, decide_eq_true_eq]
  case refused =>
    intro d hfull
    have hle : capacity limit ≤ (added rs).length := by omega
    rw [hafter, hafter]
    cases hmake : d.make with
    | error fault => rw [added_append_unmade _ hmake]
    | ok made => rw [added_append_add _ hmake, holding_append_of_le hle]
  case report =>
    rw [hafter, hafter, added_append_report]

/-- A collector for one diagnostic is full again after it was full, refused one and was cleared. -/
theorem answers_eq_mapIdx_due_full :
    min (added [.add { message := "a" }, .add { message := "b" }, .clear,
        .add { message := "c" }]).length (capacity 1) = capacity 1 ∧
      (after { limit := 1 } ([.add { message := "a" }, .add { message := "b" }, .clear,
        .add { message := "c" }] ++ [.add { message := "d" }])).errors = [{ message := "c" }] := by
  have hfull : min (added [.add { message := "a" }, .add { message := "b" }, .clear,
      .add { message := "c" }]).length (capacity 1) = capacity 1 := by decide
  obtain ⟨-, -, -, hrefused, -⟩ := answers_eq_mapIdx_due 1 [.add { message := "a" },
    .add { message := "b" }, .clear, .add { message := "c" }]
  exact ⟨hfull, (hrefused { message := "d" } hfull).trans (by decide)⟩

/-- A full collector does not refuse a diagnostic if its limit cannot be written, or if the caret of
the diagnostic would stand too far to the right. -/
theorem answers_add_unwritable :
    min (added []).length (capacity (-10 ^ 4300)) = capacity (-10 ^ 4300) ∧
      answers { limit := -10 ^ 4300 } [.add { message := "x" }] =
        [.refused (.unwritable .number)] ∧
      min (added [.add { message := "x" }]).length (capacity 1) = capacity 1 ∧
      answers { limit := 1 }
          [.add { message := "x" },
            .add { message := "y", location := some ⟨"m", ⟨1, 2 ^ 63 - 3⟩⟩,
                   sourceLine := some "a" }] =
        [.done, .unmade .padding] := by
  decide +kernel

end Collector

end UnitScan.Diagnostic

import UnitScan.Proofs.DecimalText
import UnitScan.Proofs.ErrorLimit
import UnitScan.Proofs.EscapeCodes
import UnitScan.Proofs.ScanOutcomes

/-!
# Errors are reported

A lenient scan that finds errors says so after its log, and it counts those that it shows. Since at
least one is shown, whatever the limit was asked to be, the standard error stream tells texts with
errors from texts without any.

## Implementation notes

A scan without errors says one line at most besides its log, and a report has more lines than it has
diagnostics. So what is no report is known by its newlines, whatever the diagnostics may be.
-/

namespace UnitScan

namespace Command

/-! ### Newlines -/

/-- The number of newlines in a text. -/
def newlines (text : String) : Nat := text.toList.count '\n'

theorem newlines_append (s t : String) : newlines (s ++ t) = newlines s + newlines t := by
  rw [newlines, String.toList_append, List.count_append, newlines, newlines]

theorem newlines_toString (n : Nat) : newlines (toString n) = 0 :=
  List.count_eq_zero.mpr (notMem_toList_toString (by decide) n)

theorem two_mul_length_le_newlines_paragraphs (texts : List String) :
    2 * texts.length ≤ newlines (Diagnostic.paragraphs texts) := by
  induction texts with
  | nil => exact Nat.zero_le _
  | cons text later ih =>
      have hblank : newlines "\n\n" = 2 := by decide
      rw [Diagnostic.paragraphs_cons, newlines_append, newlines_append, hblank, List.length_cons]
      omega

/-! ### Printed reports -/

/-- A report as it is printed: the paragraphs of the diagnostics and the line that counts them. -/
def printedReport (errors : List Diagnostic) (more : Bool) : String :=
  Diagnostic.paragraphs (errors.map fun d => Emission.plain d.text) ++
    Diagnostic.countLine errors.length more ++ "\n"

/-- A text of at most one line that does not begin with a zero is no report. -/
theorem ne_printedReport_append {text : String} (hlines : newlines text ≤ 1)
    (hzero : text.toList.head? ≠ some '0') (errors : List Diagnostic) (more : Bool)
    (rest : String) : text ≠ printedReport errors more ++ rest := by
  rintro rfl
  have hlast : newlines "\n" = 1 := by decide
  have hparagraphs :=
    two_mul_length_le_newlines_paragraphs (errors.map fun d => Emission.plain d.text)
  rw [printedReport, newlines_append, newlines_append, newlines_append, hlast] at hlines
  rw [List.length_map] at hparagraphs
  have hnil : errors = [] := List.length_eq_zero_iff.mp (by omega)
  rw [hnil, String.toList_append] at hzero
  cases more
  · exact hzero rfl
  · exact hzero rfl

namespace Emission

theorem plain_countLine (count : Nat) (more : Bool) :
    plain (Diagnostic.countLine count more) = Diagnostic.countLine count more := by
  have hcount := notMem_toList_toString (c := '\x1b') (by decide) count
  apply plain_of_notMem
  rw [Diagnostic.countLine, String.toList_append, String.toList_append, List.mem_append,
    List.mem_append]
  rintro ((hmem | hmem) | hmem)
  · exact hcount hmem
  · split at hmem <;> simp at hmem
  · split at hmem <;> simp at hmem

/-- Paragraphs are printed one by one. -/
theorem plain_paragraphs_append (texts : List String) (rest : String) :
    plain (Diagnostic.paragraphs texts ++ rest) =
      Diagnostic.paragraphs (texts.map plain) ++ plain rest := by
  induction texts with
  | nil => simp [Diagnostic.paragraphs]
  | cons text later ih =>
      rw [List.map_cons, Diagnostic.paragraphs_cons, Diagnostic.paragraphs_cons,
        String.append_assoc, plain_append_empty_line_append, ih]
      exact String.append_assoc.symm

theorem plain_report (c : Diagnostic.Collector) :
    plain (c.report ++ "\n") = printedReport c.errors c.truncated := by
  rw [c.report_eq_append, plain_append_newline, plain_paragraphs_append, c.summary_eq,
    plain_countLine, List.map_map]
  rfl

end Emission

/-! ### What a scan says after its log -/

namespace Scanned

theorem plain_summary (r : Scanned) (c : Diagnostic.Collector) :
    Emission.plain (r.summary c) = r.summary c := by
  have hdigits := notMem_toList_toString (c := '\x1b') (by decide)
  have hwords : '\x1b' ∉ "Scanned ".toList ∧ '\x1b' ∉ " tokens, ".toList ∧
      '\x1b' ∉ " lexical error(s)\n".toList := by decide
  apply Emission.plain_of_notMem
  simp only [summary, String.toList_append, List.mem_append, hdigits, hwords, or_self,
    not_false_eq_true]

theorem newlines_summary (r : Scanned) (c : Diagnostic.Collector) :
    newlines (r.summary c) = 1 := by
  have hends : newlines "Scanned " = 0 ∧ newlines " tokens, " = 0 ∧
      newlines " lexical error(s)\n" = 1 := by decide
  simp only [summary, newlines_append, newlines_toString, hends]

section Success

variable {r : Scanned} {c : Logged Diagnostic.Collector} (s : ScanOptions)
  (events : List Log.Event)

/-- A scan with errors reports them before everything else. -/
theorem exists_stderr_eq_report (h : c.value.hasErrors = true) :
    ∃ rest, (r.success c s events).withoutLog.stderr =
      printedReport c.value.errors c.value.truncated ++ rest := by
  rw [Outcome.stderr_withoutLog, notices_success, notices, if_pos h, List.singleton_append,
    List.map_cons, String.join_cons, Emission.plain_report]
  exact ⟨_, rfl⟩

/-- A scan without errors reports nothing. -/
theorem stderr_ne_report (h : c.value.hasErrors = false) (errors : List Diagnostic) (more : Bool)
    (rest : String) :
    (r.success c s events).withoutLog.stderr ≠ printedReport errors more ++ rest := by
  rw [Outcome.stderr_withoutLog, notices_success, notices, if_neg (by simp [h]),
    List.nil_append]
  cases s.verbose with
  | false =>
      have hlines : newlines "" ≤ 1 := by decide
      exact ne_printedReport_append hlines (by decide) errors more rest
  | true =>
      rw [if_pos rfl, List.map_singleton, plain_summary, String.join_cons, String.join_nil,
        String.append_empty]
      refine ne_printedReport_append (newlines_summary ..).le ?_ errors more rest
      simp [summary]

end Success

end Scanned

/-! ### What is reported -/

/-- After its log and before everything else, an outcome has the report of the given diagnostics on
the standard error stream. -/
def Outcome.Reports (o : Outcome) (errors : List Diagnostic) (more : Bool) : Prop :=
  ∃ rest, o.withoutLog.stderr = printedReport errors more ++ rest ∧
    o.stderr = o.onlyLog.stderr ++ printedReport errors more ++ rest

namespace Scanned

variable {r : Scanned} (s : ScanOptions) (events : List Log.Event)

theorem reports_success {c : Logged Diagnostic.Collector} (h : c.value.hasErrors = true) :
    (r.success c s events).Reports c.value.errors c.value.truncated := by
  obtain ⟨rest, hrest⟩ := exists_stderr_eq_report s events h
  refine ⟨rest, hrest, ?_⟩
  rw [stderr_success, hrest, String.append_assoc]

theorem hasErrors_kept_iff (hlimit : 1 ≤ r.config.errorLimit) :
    r.kept.value.hasErrors = true ↔ ∃ t ∈ r.tokens, t.isError = true := by
  rw [kept, Diagnostic.Collector.hasErrors_filled_iff _ hlimit, ne_eq,
    Diagnostic.ofTokens_eq_nil_iff]
  simp

/-- A scan with a positive limit reports something if and only if a token is an error. -/
theorem exists_reports_success_iff (hlimit : 1 ≤ r.config.errorLimit) :
    (∃ errors more, (r.success r.kept s events).Reports errors more) ↔
      ∃ t ∈ r.tokens, t.isError = true := by
  rw [← hasErrors_kept_iff hlimit]
  constructor
  · rintro ⟨errors, more, rest, hrest, -⟩
    by_contra hnone
    exact stderr_ne_report s events (Bool.eq_false_iff.mpr hnone) errors more rest hrest
  · intro h
    exact ⟨_, _, reports_success s events h⟩

end Scanned

/-- The error limit of a scan is positive, whatever the command line and the environment ask for.
So a lenient scan of a text has a report on the standard error stream if and only if a token is an
error. The report then has the first errors, as many as there are up to the limit, and says that it
stopped if and only if there are more. -/
theorem run_reports_errors {disk : Disk} {args : List String} {env : Environment}
    {s : ScanOptions} (hrequest : Request.ofArgs disk.isDirectory args = .ok (.scan s)) :
    1 ≤ (s.configuration env).errorLimit ∧
      ∀ {bytes : List UInt8} {source : List Char} {p : Policy},
        Reaches s env disk bytes source p → (s.configuration env).strict = false →
          ((∃ errors more, (run args env disk).Reports errors more) ↔
              ∃ t ∈ tokens p source, t.isError = true) ∧
            ((∃ t ∈ tokens p source, t.isError = true) →
              ∃ errors more, (run args env disk).Reports errors more ∧
                errors <+: Diagnostic.ofTokens (tokens p source) source
                  (s.path (s.configuration env)).text ∧
                (errors.length : Int) = min (Token.errorCount (tokens p source) : Int)
                  (s.configuration env).errorLimit ∧
                (more = true ↔
                  (s.configuration env).errorLimit < Token.errorCount (tokens p source))) := by
  have hlimit : 1 ≤ (s.configuration env).errorLimit :=
    (ScanOptions.isErrorLimit hrequest env).positive
  refine ⟨hlimit, ?_⟩
  intro bytes source p hreaches hlenient
  rw [run_eq_of_lenient hrequest hlenient hreaches]
  have hiff := Scanned.exists_reports_success_iff (r := s.found env source p) s
    (scanEvents s env bytes source p) hlimit
  refine ⟨hiff, fun herror => ?_⟩
  have hnonneg : 0 ≤ (s.configuration env).errorLimit := Int.le_trans (by decide) hlimit
  have hasErrors := (Scanned.hasErrors_kept_iff (r := s.found env source p) hlimit).mpr herror
  rw [← Diagnostic.length_ofTokens (tokens p source) source (s.path (s.configuration env)).text]
  exact ⟨_, _, Scanned.reports_success s _ hasErrors,
    Diagnostic.Collector.errors_filled_prefix _ _,
    Diagnostic.Collector.length_errors_filled _ hnonneg,
    Diagnostic.Collector.truncated_filled_iff _ hnonneg⟩

/-- The environment allows one error, and the text has two of them. -/
theorem run_reports_errors_beyond_limit :
    ∃ errors, (run ["units.dat"] [("UNITLEX_MAX_ERRORS", "1")]
        (oneFile "a@b@".toUTF8.toList)).Reports errors true ∧
      errors.length = 1 := by
  let s : ScanOptions := { input := some "units.dat" }
  let env : Environment := [("UNITLEX_MAX_ERRORS", "1")]
  have hrequest : Request.ofArgs (oneFile "a@b@".toUTF8.toList).isDirectory ["units.dat"] =
      .ok (.scan s) := by
    change Request.ofArgs (fun _ => false) _ = _
    decide +kernel
  have hreaches : Reaches s env (oneFile "a@b@".toUTF8.toList) "a@b@".toUTF8.toList
      "a@b@".toList Policy.standard :=
    ⟨rfl, by decide +kernel, Policy.Settings.accept_eq_ok_iff.mpr (by decide +kernel)⟩
  have hcount : Token.errorCount (tokens Policy.standard "a@b@".toList) = 2 := by
    decide +kernel
  have hlimit : (s.configuration env).errorLimit = 1 := by decide +kernel
  obtain ⟨errors, more, hreports, -, hlength, hmore⟩ :=
    ((run_reports_errors hrequest).2 hreaches (by decide +kernel)).2 (by decide +kernel)
  rw [hcount, hlimit] at hlength hmore
  rw [hmore.mpr (by decide)] at hreports
  exact ⟨errors, hreports, Int.ofNat_inj.mp (hlength.trans (by decide))⟩

end Command

end UnitScan

import UnitScan.Proofs.CollectedDiagnostics
import UnitScan.Proofs.ConfiguredPolicies
import UnitScan.Proofs.EscapeCodes
import UnitScan.Proofs.RenderedText
import UnitScan.Proofs.ScanOutcomes
import UnitScan.Proofs.Utf8RoundTrip

/-!
# The text output of the command is a fixed point

A scan without errors succeeds, strict or not, and writes its tokens as text. A scan of what such
a scan has written, as a file in UTF-8, writes the same text again and reports no error. Between
the two texts stand the newline at the end, the terminal escape codes, of which there are none, and
the reports, which have nothing to tell.
-/

namespace UnitScan

namespace Command

/-! ### The newline at the end -/

namespace Scanned

theorem getLast?_terminated (text : String) :
    (terminated text).toList.getLast? = some '\n' := by
  unfold terminated
  split
  · assumption
  · simp

theorem terminated_of_getLast? {text : String} (h : text.toList.getLast? = some '\n') :
    terminated text = text := if_pos h

theorem isRendered_terminated {p : Policy} {text : String} (h : IsRendered p text.toList) :
    IsRendered p (terminated text).toList := by
  unfold terminated
  split
  · exact h
  · simpa using h.append_newline

/-! ### Reports without errors -/

theorem rejection?_eq_none {r : Scanned} (herror : ∀ t ∈ r.tokens, t.isError = false) :
    r.rejection? = none := by
  rw [rejection?_eq_none_iff]
  rintro ⟨-, t, ht, hisError⟩
  rw [herror t ht] at hisError
  cases hisError

/-- What a verbose scan without errors says at its end. -/
def faultlessSummary (tokens : List Token) : String :=
  "Scanned " ++ toString tokens.length ++ " tokens, 0 lexical error(s)\n"

theorem summary_eq {r : Scanned} {c : Diagnostic.Collector} (h : c.count = 0) :
    r.summary c = faultlessSummary r.tokens := by
  rw [summary, h, String.append_assoc, String.append_assoc]
  rfl

/-- Without errors there is nothing to collect. -/
theorem collected_eq {r : Scanned} (herror : ∀ t ∈ r.tokens, t.isError = false) :
    r.collected = ⟨.ok { limit := r.config.errorLimit }, []⟩ := by
  have hnone : r.tokens.filter Token.isError = [] := by
    simpa [List.filter_eq_nil_iff] using herror
  rw [collected, Diagnostic.collect, hnone]
  rfl

/-- A scan without errors writes its tokens and has nothing to report. -/
theorem accepted_eq {r : Scanned} (herror : ∀ t ∈ r.tokens, t.isError = false) (s : ScanOptions)
    (events : List Log.Event) :
    r.accepted s events =
      { status := .success
        emissions := events.map .event ++ .output (r.output s.format) ::
          (if s.verbose then [faultlessSummary r.tokens] else []).map .notice
        verbose := s.verbose } := by
  have hsummary : r.summary { limit := r.config.errorLimit } = faultlessSummary r.tokens :=
    summary_eq rfl
  rw [accepted, collected_eq herror]
  simp only [success, notices, hsummary, List.map_nil, List.append_assoc, List.cons_append,
    List.nil_append]
  rfl

end Scanned

/-! ### Runs without errors -/

/-- A run that scans a file of the given bytes, in UTF-8 and under a policy, and writes its tokens
as text. -/
structure ScansText (args : List String) (env : Environment) (disk : Disk) (s : ScanOptions)
    (p : Policy) (bytes : List UInt8) : Prop where
  request : Request.ofArgs disk.isDirectory args = .ok (.scan s)
  format : s.format = .text
  encoding : Encoding.ofName? (s.configuration env).encoding = some .utf8
  policy : (s.configuration env).policy = .ok p
  file : disk.read (s.path (s.configuration env)) = .ok bytes

namespace ScansText

variable {args : List String} {env : Environment} {disk : Disk} {s : ScanOptions} {p : Policy}
  {bytes : List UInt8}

/-- The empty file is the empty text in every encoding, so also in this one. -/
theorem decode?_eq_some (h : ScansText args env disk s p bytes) :
    Configuration.decode? (s.configuration env).encoding bytes =
      some (Encoding.Utf8.decode bytes) := by
  unfold Configuration.decode?
  split
  · next hempty => rw [List.isEmpty_iff.mp hempty, Encoding.Utf8.decode]
  · rw [h.encoding]
    rfl

theorem value_scanFile (h : ScansText args env disk s p bytes) :
    (scanFile s env disk).value =
      .ok ⟨s.configuration env, s.path (s.configuration env), Encoding.Utf8.decode bytes,
        tokens p (Encoding.Utf8.decode bytes)⟩ := by
  rw [scanFile_eq ⟨h.file, h.decode?_eq_some, h.policy⟩]
  rfl

/-- What a run gives out when its file has no errors, strict or not. -/
theorem run_eq (h : ScansText args env disk s p bytes)
    (herror : ∀ t ∈ tokens p (Encoding.Utf8.decode bytes), t.isError = false) :
    run args env disk =
      { status := .success
        emissions := (scanFile s env disk).events.map .event ++
          .output (Scanned.terminated (Token.renderAll (tokens p (Encoding.Utf8.decode bytes)))) ::
            (if s.verbose then [Scanned.faultlessSummary (tokens p (Encoding.Utf8.decode bytes))]
            else []).map .notice
        verbose := s.verbose } := by
  rw [run_eq_scan h.request, scan_eq_of_ok h.value_scanFile (Scanned.rejection?_eq_none herror),
    Scanned.accepted_eq herror, h.format]
  rfl

theorem stdout_run (h : ScansText args env disk s p bytes)
    (herror : ∀ t ∈ tokens p (Encoding.Utf8.decode bytes), t.isError = false) :
    (run args env disk).stdout =
      Scanned.terminated (Token.renderAll (tokens p (Encoding.Utf8.decode bytes))) := by
  have hrendered := Scanned.isRendered_terminated (isRendered_renderAll herror)
  have hescape := hrendered.escape_notMem (Configuration.startsIdent_escape h.policy)
    (Configuration.continuesIdent_escape h.policy)
  rw [h.run_eq herror, Outcome.stdout_mk, Emission.plain_of_notMem hescape]

/-- What a scan without errors writes is a rendered text that ends in a newline. -/
theorem isRendered_stdout_run (h : ScansText args env disk s p bytes)
    (herror : ∀ t ∈ tokens p (Encoding.Utf8.decode bytes), t.isError = false) :
    IsRendered p (run args env disk).stdout.toList ∧
      (run args env disk).stdout.toList.getLast? = some '\n' := by
  rw [h.stdout_run herror]
  exact ⟨Scanned.isRendered_terminated (isRendered_renderAll herror),
    Scanned.getLast?_terminated _⟩

end ScansText

/-- A rendered text that ends in a newline is written as it is. -/
theorem terminated_renderAll {p : Policy} (hspace : p.isBlank ' ' = true) {text : String}
    (h : IsRendered p text.toList) (hlast : text.toList.getLast? = some '\n') :
    Scanned.terminated (Token.renderAll (tokens p text.toList)) = text := by
  have hrender : Token.renderAll (tokens p text.toList) = text :=
    String.toList_inj.mp (h.renderAll_tokens hspace)
  rw [hrender, Scanned.terminated_of_getLast? hlast]

/-- A run that scans a file without errors and writes its tokens as text succeeds. So does a run
that scans what the first one has written, under the same policy, and it writes the same text and
reports no error. The runs may differ in the file that they name, in strictness, in the error limit
and in how much they say. -/
theorem run_stdout_run {args args' : List String} {env env' : Environment} {disk disk' : Disk}
    {s s' : ScanOptions} {p : Policy} {bytes : List UInt8}
    (first : ScansText args env disk s p bytes)
    (herror : ∀ t ∈ tokens p (Encoding.Utf8.decode bytes), t.isError = false)
    (second : ScansText args' env' disk' s' p (run args env disk).stdout.toUTF8.toList) :
    (run args env disk).status.code = 0 ∧
      (run args' env' disk').status.code = 0 ∧
      (run args' env' disk').stdout = (run args env disk).stdout ∧
      (run args' env' disk').notices =
        if s'.verbose then
          [Scanned.faultlessSummary (tokens p (run args env disk).stdout.toList)]
        else [] := by
  have hspace := Configuration.isBlank_space first.policy
  obtain ⟨hrendered, hlast⟩ := first.isRendered_stdout_run herror
  have hdecode := Encoding.Utf8.decode_toUTF8 (run args env disk).stdout
  have herror' := hrendered.isError_eq_false hspace
  rw [← hdecode] at herror'
  refine ⟨?_, ?_, ?_, ?_⟩
  · rw [first.run_eq herror, ExitStatus.code]
  · rw [second.run_eq herror', ExitStatus.code]
  · rw [second.stdout_run herror', hdecode, terminated_renderAll hspace hrendered hlast]
  · rw [second.run_eq herror', Outcome.notices_mk, hdecode]

/-- A strict scan of a text, in which comments start with a semicolon. -/
def scanStrictly (text : String) : Outcome :=
  run ["--comment-char", ";", "units.dat"] [("UNITLEX_STRICT", "yes")]
    (oneFile text.toUTF8.toList)

theorem scansText_oneFile (bytes : List UInt8) :
    ScansText ["--comment-char", ";", "units.dat"] [("UNITLEX_STRICT", "yes")] (oneFile bytes)
      { comment := some ";", input := some "units.dat" } ⟨{ comment := some ";" }, by decide⟩
      bytes where
  request := by
    change Request.ofArgs (fun _ => false) _ = _
    decide +kernel
  format := rfl
  encoding := by decide +kernel
  policy := Policy.Settings.accept_eq_ok_iff.mpr (by decide +kernel)
  file := rfl

/-- A text with both exponent marks, a comment, a continuation, a letter of two bytes and no
newline at its end is scanned, and then what that scan has written. -/
theorem run_stdout_run_strict :
    (scanStrictly "5em 1E+5|'.2e3 ; x\n\\\n-a.bµ").status.code = 0 ∧
      (scanStrictly (scanStrictly "5em 1E+5|'.2e3 ; x\n\\\n-a.bµ").stdout).status.code = 0 ∧
      (scanStrictly (scanStrictly "5em 1E+5|'.2e3 ; x\n\\\n-a.bµ").stdout).stdout =
        (scanStrictly "5em 1E+5|'.2e3 ; x\n\\\n-a.bµ").stdout ∧
      (scanStrictly (scanStrictly "5em 1E+5|'.2e3 ; x\n\\\n-a.bµ").stdout).notices = [] := by
  have first := scansText_oneFile "5em 1E+5|'.2e3 ; x\n\\\n-a.bµ".toUTF8.toList
  have herror : ∀ t ∈ tokens ⟨{ comment := some ";" }, by decide⟩
      (Encoding.Utf8.decode "5em 1E+5|'.2e3 ; x\n\\\n-a.bµ".toUTF8.toList),
      t.isError = false := by
    decide +kernel
  exact run_stdout_run first herror (scansText_oneFile _)

end Command

end UnitScan

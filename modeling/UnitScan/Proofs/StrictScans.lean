import UnitScan.Proofs.ErrorReports
import Mathlib.Control.Monad.Basic

/-!
# Strict and lenient scans agree

A strict scan looks for the first error before it writes its tokens, a lenient one collects the
errors after that. When there is no error, nothing tells the two apart. When there is one, a strict
scan fails with the very text that the report of a lenient scan begins with.

## Implementation notes

Strictness is asked for on the command line or in the environment. Two runs are compared that agree
in everything else, and only the configurations in effect decide which one is strict.
-/

namespace UnitScan

/-! ### Environments that differ in strictness -/

namespace Configuration

/-- The variable of strictness is read for nothing but strictness. -/
theorem ofEnvironment_eq {env env' : Environment}
    (h : ∀ name ≠ strictVariable, env'.lookup name = env.lookup name) :
    ofEnvironment env' =
      ⟨{ (ofEnvironment env).value with strict := (ofEnvironment env').value.strict },
        (ofEnvironment env).events⟩ := by
  have hsetting : ∀ name ≠ strictVariable, setting? env' name = setting? env name := by
    intro name hname
    rw [setting?, setting?, h name hname]
  have hlimit : ∀ default, readErrorLimit env' default = readErrorLimit env default := by
    intro default
    rw [readErrorLimit, readErrorLimit, hsetting errorLimitVariable (by decide)]
  simp only [ofEnvironment, hsetting definitionsVariable (by decide),
    hsetting encodingVariable (by decide), h commentVariable (by decide), hlimit]
  rfl

end Configuration

namespace Command

variable {disk : Disk} {args args' : List String} {env env' : Environment} {s s' : ScanOptions}
  {bytes : List UInt8} {source : List Char} {p : Policy}

/-- Two command lines and environments that ask for scans which differ in nothing but strictness:
the first scan is lenient and the second one strict. -/
structure StrictTwin (disk : Disk) (args : List String) (env : Environment) (s : ScanOptions)
    (args' : List String) (env' : Environment) (s' : ScanOptions) : Prop where
  request : Request.ofArgs disk.isDirectory args = .ok (.scan s)
  request' : Request.ofArgs disk.isDirectory args' = .ok (.scan s')
  options : s' = { s with strict := s'.strict }
  environment : ∀ name ≠ Configuration.strictVariable, env'.lookup name = env.lookup name
  lenient : (s.configuration env).strict = false
  strict : (s'.configuration env').strict = true

/-- What a scan has found, as a strict scan would have found it. -/
def Scanned.strictly (r : Scanned) : Scanned :=
  { r with config := { r.config with strict := true } }

namespace StrictTwin

theorem configuration_eq (twin : StrictTwin disk args env s args' env' s') :
    s'.configuration env' = { s.configuration env with strict := true } := by
  have hvalue := congrArg Logged.value (Configuration.ofEnvironment_eq twin.environment)
  have heq : s'.configuration env' =
      { s.configuration env with strict := (s'.configuration env').strict } := by
    rw [ScanOptions.configuration, hvalue, twin.options]
    rfl
  rw [heq, twin.strict]

theorem path_eq (twin : StrictTwin disk args env s args' env' s') :
    s'.path (s'.configuration env') = s.path (s.configuration env) := by
  rw [twin.configuration_eq, twin.options]
  rfl

/-- Strictness keeps no scan from its text. -/
theorem reaches (twin : StrictTwin disk args env s args' env' s')
    (h : Reaches s env disk bytes source p) : Reaches s' env' disk bytes source p where
  read := by
    rw [twin.path_eq]
    exact h.read
  decoded := by
    rw [twin.configuration_eq]
    exact h.decoded
  policy := by
    rw [twin.configuration_eq]
    exact h.policy

/-- The strict scan finds the same and logs the same. -/
theorem scanFile_eq (twin : StrictTwin disk args env s args' env' s')
    (h : Reaches s env disk bytes source p) :
    scanFile s' env' disk =
      ⟨.ok (s.found env source p).strictly, scanEvents s env bytes source p⟩ := by
  have hfound : s'.found env' source p = (s.found env source p).strictly := by
    rw [ScanOptions.found, twin.path_eq, twin.configuration_eq]
    rfl
  have hevents : scanEvents s' env' bytes source p = scanEvents s env bytes source p := by
    rw [scanEvents, scanEvents, twin.path_eq, twin.configuration_eq,
      Configuration.ofEnvironment_eq twin.environment]
  rw [Command.scanFile_eq (twin.reaches h), hfound, hevents]

end StrictTwin

/-! ### What the runs give out -/

/-- A positive limit keeps the first diagnostic. -/
theorem Scanned.exists_errors_eq {r : Scanned} {d : Diagnostic} (hlimit : 1 ≤ r.config.errorLimit)
    (hfirst : (Diagnostic.ofTokens r.tokens r.source r.path.text).head? = some d) :
    ∃ later, r.kept.value.errors = d :: later := by
  obtain ⟨others, hothers⟩ := List.head?_eq_some_iff.mp hfirst
  obtain ⟨n, hn⟩ : ∃ n, r.config.errorLimit.toNat = n + 1 :=
    Nat.exists_eq_add_of_le' (by omega)
  rw [kept, Diagnostic.Collector.filled, hothers, hn]
  exact ⟨others.take n, rfl⟩

/-- A strict scan fails with the text of the first error. -/
theorem stderr_ofFailure_lexical (text : String) (verbose : Bool) (events : List Log.Event) :
    (Outcome.ofFailure (.library .lexical) text (some scanLabel) verbose
      events).withoutLog.stderr = Emission.plain text ++ "\n" := by
  have hlexical : ErrorClass.lexical.isA .lexical = true := by
    simp [ErrorClass.isA, ErrorClass.ancestors, ErrorClass.parent?]
  have hlead : (FailureKind.library .lexical).lead (some scanLabel) = "" := if_pos hlexical
  have htrace : (FailureKind.library .lexical).isTraced verbose = false := rfl
  rw [Outcome.stderr_withoutLog, Outcome.notices_ofFailure, hlead, htrace, String.empty_append]
  simp [Emission.plain_append_newline]

/-- A lenient scan with errors reports the first of them first, followed by an empty line. -/
theorem exists_stderr_eq {r : Scanned} {d : Diagnostic} (s : ScanOptions)
    (events : List Log.Event) (hlimit : 1 ≤ r.config.errorLimit)
    (hfirst : (Diagnostic.ofTokens r.tokens r.source r.path.text).head? = some d) :
    ∃ rest, (r.success r.kept s events).withoutLog.stderr =
      Emission.plain d.text ++ "\n\n" ++ rest := by
  obtain ⟨later, hlater⟩ := Scanned.exists_errors_eq hlimit hfirst
  have hasErrors : r.kept.value.hasErrors = true := by
    rw [Diagnostic.Collector.hasErrors, hlater]
    rfl
  obtain ⟨rest, hrest⟩ := Scanned.exists_stderr_eq_report (r := r) s events hasErrors
  rw [hrest, hlater, printedReport, List.map_cons, Diagnostic.paragraphs_cons]
  simp only [String.append_assoc]
  exact ⟨_, rfl⟩

namespace StrictTwin

/-- A lenient scan that gets as far as its text succeeds. -/
theorem run_eq (twin : StrictTwin disk args env s args' env' s')
    (h : Reaches s env disk bytes source p) :
    run args env disk =
      (s.found env source p).success (s.found env source p).kept s
        (scanEvents s env bytes source p) :=
  run_eq_of_lenient twin.request twin.lenient h

/-- A strict scan without an error is like the lenient one. -/
theorem run_eq_of_first?_eq_none (twin : StrictTwin disk args env s args' env' s')
    (h : Reaches s env disk bytes source p)
    (hfirst : Diagnostic.first? (tokens p source) source
      (s.path (s.configuration env)).text = none) :
    run args' env' disk = run args env disk := by
  have hfile := twin.scanFile_eq h
  have haccepted : (s.found env source p).strictly.rejection? = none := hfirst
  have hlimit := (ScanOptions.isErrorLimit twin.request env).writable
  have hcollected : (s.found env source p).strictly.collected =
      ⟨.ok (s.found env source p).kept.value, (s.found env source p).kept.events⟩ :=
    collected_found hlimit
  rw [run_eq_scan twin.request', scan_eq_of_ok (by rw [hfile]) haccepted, hfile, twin.run_eq h,
    twin.options, Scanned.accepted_eq_success hcollected]
  rfl

/-- A strict scan with an error fails with the first one. -/
theorem run_eq_of_first?_eq_some (twin : StrictTwin disk args env s args' env' s')
    (h : Reaches s env disk bytes source p) {d : Diagnostic}
    (hfirst : Diagnostic.first? (tokens p source) source
      (s.path (s.configuration env)).text = some (.ok d)) :
    run args' env' disk =
      Outcome.ofFailure (.library .lexical) d.text (some scanLabel) s.verbose
        (scanEvents s env bytes source p) := by
  have hfile := twin.scanFile_eq h
  have hrejected : (s.found env source p).strictly.rejection? = some (.ok d) := hfirst
  rw [run_eq_scan twin.request', scan_eq_of_rejection (by rw [hfile]) hrejected, hfile,
    twin.options]

/-- Of two runs that scan the same text and differ in nothing but strictness, both succeed if no
token is an error, and they write the same. If a token is an error, the lenient run succeeds and
the strict one fails without writing a token. Apart from the log, the strict run then reports the
first error alone, and with this text the report of the lenient run begins. -/
theorem agree (twin : StrictTwin disk args env s args' env' s')
    (h : Reaches s env disk bytes source p) :
    ((∀ t ∈ tokens p source, t.isError = false) →
        (run args env disk).status.code = 0 ∧ (run args' env' disk).status.code = 0 ∧
        (run args' env' disk).stdout = (run args env disk).stdout ∧
        (run args' env' disk).stderr = (run args env disk).stderr) ∧
      ((∃ t ∈ tokens p source, t.isError = true) →
        (run args env disk).status.code = 0 ∧ (run args' env' disk).status.code = 1 ∧
        (run args' env' disk).stdout = "" ∧
        ∃ d rest,
          Diagnostic.first? (tokens p source) source
            (s.path (s.configuration env)).text = some (.ok d) ∧
          (run args' env' disk).withoutLog.stderr = Emission.plain d.text ++ "\n" ∧
          (run args env disk).withoutLog.stderr = Emission.plain d.text ++ "\n\n" ++ rest) := by
  constructor
  · intro herror
    rw [twin.run_eq_of_first?_eq_none h (Diagnostic.first?_eq_none_iff.mpr herror), twin.run_eq h]
    exact ⟨rfl, rfl, rfl, rfl⟩
  · rintro ⟨t, ht, herror⟩
    obtain ⟨d, hhead⟩ : ∃ d, (Diagnostic.ofTokens (tokens p source) source
        (s.path (s.configuration env)).text).head? = some d := by
      rw [← Option.ne_none_iff_exists', ne_eq, List.head?_eq_none_iff,
        Diagnostic.ofTokens_eq_nil_iff]
      intro hnone
      rw [hnone t ht] at herror
      cases herror
    have hfirst : Diagnostic.first? (tokens p source) source
        (s.path (s.configuration env)).text = some (.ok d) := by
      rw [Diagnostic.first?_tokens, hhead, Option.map_some]
    have hlimit := (ScanOptions.isErrorLimit twin.request env).positive
    obtain ⟨rest, hrest⟩ := exists_stderr_eq (r := s.found env source p) s
      (scanEvents s env bytes source p) hlimit hhead
    rw [twin.run_eq h, twin.run_eq_of_first?_eq_some h hfirst]
    exact ⟨rfl, rfl, Outcome.stdout_ofFailure .., d, rest, hfirst,
      stderr_ofFailure_lexical .., hrest⟩

end StrictTwin

/-- Two scans of a file with a stray character, of which the environment makes the second one
strict. -/
theorem agree_stray :
    (run ["units.dat"] [] (oneFile "a@b".toUTF8.toList)).status.code = 0 ∧
      (run ["units.dat"] [("UNITLEX_STRICT", "on")] (oneFile "a@b".toUTF8.toList)).status.code =
        1 ∧
      (run ["units.dat"] [("UNITLEX_STRICT", "on")] (oneFile "a@b".toUTF8.toList)).stdout = "" ∧
      ∃ d rest,
        Diagnostic.first? (tokens Policy.standard "a@b".toList) "a@b".toList "units.dat" =
          some (.ok d) ∧
        (run ["units.dat"] [("UNITLEX_STRICT", "on")]
          (oneFile "a@b".toUTF8.toList)).withoutLog.stderr = Emission.plain d.text ++ "\n" ∧
        (run ["units.dat"] [] (oneFile "a@b".toUTF8.toList)).withoutLog.stderr =
          Emission.plain d.text ++ "\n\n" ++ rest := by
  let s : ScanOptions := { input := some "units.dat" }
  have hrequest : Request.ofArgs (fun _ => false) ["units.dat"] = .ok (.scan s) := by
    decide +kernel
  have henvironment : ∀ name ≠ Configuration.strictVariable,
      [("UNITLEX_STRICT", "on")].lookup name = ([] : Environment).lookup name := by
    intro name hname
    rw [List.lookup_nil, List.lookup_eq_none_iff]
    simpa [Configuration.strictVariable] using hname
  have twin : StrictTwin (oneFile "a@b".toUTF8.toList) ["units.dat"] [] s ["units.dat"]
      [("UNITLEX_STRICT", "on")] s :=
    ⟨hrequest, hrequest, rfl, henvironment, by decide +kernel, by decide +kernel⟩
  have hreaches : Reaches s [] (oneFile "a@b".toUTF8.toList) "a@b".toUTF8.toList "a@b".toList
      Policy.standard :=
    ⟨rfl, by decide +kernel, Policy.Settings.accept_eq_ok_iff.mpr (by decide +kernel)⟩
  have hpath : (s.path (s.configuration [])).text = "units.dat" := by decide +kernel
  have hstray := (twin.agree hreaches).2 (by decide +kernel)
  rwa [hpath] at hstray

end Command

end UnitScan

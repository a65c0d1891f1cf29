import UnitScan.Command.Run
import UnitScan.Proofs.ErrorLimit
import UnitScan.Proofs.ScanDiagnostics

/-!
# How scans end

A scan has four stages: its file is read, the bytes are decoded, the settings are made into a
policy, and the text is scanned. The first stage that fails decides what is found. The rest of this
module says what a run gives out for each thing that can be found, apart from the log.

## Implementation notes

`Finds` says of every stage what has gone before it. A proof about all scans is a case analysis of
`finds_scanFile` and does not open `scanFile`.
-/

namespace UnitScan.Command

/-- The configuration in effect for a scan. -/
def ScanOptions.configuration (s : ScanOptions) (env : Environment) : Configuration :=
  s.configure (Configuration.ofEnvironment env).value

/-- The file system in which every path leads to one file. -/
def oneFile (bytes : List UInt8) : Disk := ⟨fun _ => false, fun _ => .ok bytes⟩

/-! ### What is found -/

section Finding

variable {s : ScanOptions} {env : Environment} {disk : Disk} {bytes : List UInt8}
  {source : List Char} {p : Policy}

/-- A scan that gets as far as its text: the file is read and decoded, and the settings make a
policy. -/
structure Reaches (s : ScanOptions) (env : Environment) (disk : Disk) (bytes : List UInt8)
    (source : List Char) (p : Policy) : Prop where
  read : disk.read (s.path (s.configuration env)) = .ok bytes
  decoded : Configuration.decode? (s.configuration env).encoding bytes = some source
  policy : (s.configuration env).policy = .ok p

/-- What a scan finds that gets as far as its text. -/
def ScanOptions.found (s : ScanOptions) (env : Environment) (source : List Char) (p : Policy) :
    Scanned :=
  ⟨s.configuration env, s.path (s.configuration env), source, tokens p source⟩

/-- What is found in the file of a scan, by the first stage that fails or by the last one. -/
inductive Finds (s : ScanOptions) (env : Environment) (disk : Disk) :
    Except Failure Scanned → Prop
  | unread {fault : FileFault}
      (hread : disk.read (s.path (s.configuration env)) = .error fault) :
      Finds s env disk (.error (.reading (.file fault (s.path (s.configuration env)))))
  | undecoded {bytes : List UInt8}
      (hread : disk.read (s.path (s.configuration env)) = .ok bytes)
      (hdecode : Configuration.decode? (s.configuration env).encoding bytes = none) :
      Finds s env disk (.error (.reading (.unknownEncoding (s.configuration env).encoding)))
  | refused {bytes : List UInt8} {fault : Policy.Fault}
      (hread : disk.read (s.path (s.configuration env)) = .ok bytes)
      (hpolicy : (s.configuration env).policy = .error fault) :
      Finds s env disk (.error (.policy fault))
  | scanned {bytes : List UInt8} {source : List Char} {p : Policy}
      (h : Reaches s env disk bytes source p) :
      Finds s env disk (.ok (s.found env source p))

/-- What is found, without the log of how it was found. -/
theorem value_scanFile (s : ScanOptions) (env : Environment) (disk : Disk) :
    (scanFile s env disk).value =
      match ((s.configuration env).readSource disk (s.path (s.configuration env))).value with
      | .error failure => .error (.reading failure)
      | .ok source =>
        match (s.configuration env).policy with
        | .error fault => .error (.policy fault)
        | .ok p => .ok (s.found env source p) := by
  simp only [scanFile, Logged.value_bind]
  rw [← ScanOptions.configuration]
  cases ((s.configuration env).readSource disk (s.path (s.configuration env))).value with
  | error failure => rfl
  | ok source => cases (s.configuration env).policy <;> rfl

theorem finds_scanFile (s : ScanOptions) (env : Environment) (disk : Disk) :
    Finds s env disk (scanFile s env disk).value := by
  rw [value_scanFile, Configuration.readSource]
  cases hread : disk.read (s.path (s.configuration env)) with
  | error fault => exact .unread hread
  | ok bytes =>
      cases hdecode : Configuration.decode? (s.configuration env).encoding bytes with
      | none =>
          simp only [hdecode, Logged.value_pure]
          exact .undecoded hread hdecode
      | some source =>
          simp only [hdecode, Logged.value_bind, Logged.value_pure]
          cases hpolicy : (s.configuration env).policy with
          | error fault => exact .refused hread hpolicy
          | ok p => exact .scanned ⟨hread, hdecode, hpolicy⟩

/-- The log of a scan whose stages all succeed. -/
def scanEvents (s : ScanOptions) (env : Environment) (bytes : List UInt8) (source : List Char)
    (p : Policy) : List Log.Event :=
  (Configuration.ofEnvironment env).events ++
    .scanning (s.path (s.configuration env)).text (s.configuration env).encoding ::
      .sourceRead bytes.length (s.path (s.configuration env)).text :: (tokenize p source).events

theorem scanFile_eq (h : Reaches s env disk bytes source p) :
    scanFile s env disk = ⟨.ok (s.found env source p), scanEvents s env bytes source p⟩ := by
  have hsource : (s.configuration env).readSource disk (s.path (s.configuration env)) =
      ⟨.ok source, [.sourceRead bytes.length (s.path (s.configuration env)).text]⟩ := by
    simp only [Configuration.readSource, h.read, h.decoded]
    rfl
  have hpolicy := h.policy
  rw [ScanOptions.configuration] at hsource hpolicy
  simp only [scanFile, bind, hsource, hpolicy]
  simp [pure, Logged.note, tokens, scanEvents, ScanOptions.found, ScanOptions.configuration]

end Finding

/-! ### What is given out -/

/-- Whether something that a run gives out belongs to its log. -/
def Emission.isEvent : Emission → Bool
  | .event _ => true
  | .notice _ | .output _ => false

namespace Outcome

/-- The texts that a run puts on the standard error stream besides its log. -/
def notices (o : Outcome) : List String :=
  o.emissions.filterMap fun
    | .notice text => some text
    | .event _ | .output _ => none

/-- An outcome as it is when nothing is logged. -/
def withoutLog (o : Outcome) : Outcome :=
  { o with emissions := o.emissions.filter fun e => !e.isEvent }

/-- What is left on the standard error stream without the log is the notices. -/
theorem stderr_withoutLog (o : Outcome) :
    o.withoutLog.stderr = String.join (o.notices.map Emission.plain) := by
  obtain ⟨status, emissions, verbose⟩ := o
  induction emissions with
  | nil => rfl
  | cons e later ih =>
      cases e with
      | event e => exact ih
      | output text => exact (String.join_cons.trans String.empty_append).trans ih
      | notice text =>
          have hlater := congrArg (Emission.plain text ++ ·) ih
          exact String.join_cons.trans (hlater.trans String.join_cons.symm)

/-- The log of an outcome, and nothing else. -/
def onlyLog (o : Outcome) : Outcome :=
  { o with emissions := o.emissions.filter Emission.isEvent }

theorem stderr_cons (status : ExitStatus) (e : Emission) (later : List Emission)
    (verbose : Bool) :
    stderr ⟨status, e :: later, verbose⟩ =
      e.onStderr verbose ++ stderr ⟨status, later, verbose⟩ :=
  String.join_cons

/-- Where the log ends before the first notice, the standard error stream is the log and then the
notices. -/
theorem stderr_mk_append {status : ExitStatus} {front back : List Emission} {verbose : Bool}
    (hfront : ∀ text, .notice text ∉ front) (hback : ∀ e ∈ back, e.isEvent = false) :
    stderr ⟨status, front ++ back, verbose⟩ =
      (onlyLog ⟨status, front ++ back, verbose⟩).stderr ++
        (withoutLog ⟨status, front ++ back, verbose⟩).stderr := by
  induction front with
  | nil =>
      have hlog : back.filter Emission.isEvent = [] :=
        List.filter_eq_nil_iff.mpr fun e he => by simp [hback e he]
      have hrest : back.filter (fun e => !e.isEvent) = back :=
        List.filter_eq_self.mpr fun e he => by simp [hback e he]
      rw [List.nil_append, onlyLog, withoutLog, hlog, hrest]
      exact String.empty_append.symm
  | cons e front ih =>
      have hlater := ih fun text htext => hfront text (List.mem_cons_of_mem e htext)
      rw [List.cons_append, stderr_cons, hlater]
      cases e with
      | notice text => exact absurd List.mem_cons_self (hfront text)
      | event e =>
          have hlog : (onlyLog ⟨status, .event e :: (front ++ back), verbose⟩).stderr =
              Emission.eventLine verbose e ++
                (onlyLog ⟨status, front ++ back, verbose⟩).stderr := String.join_cons
          rw [hlog, String.append_assoc]
          rfl
      | output text =>
          rw [Emission.onStderr, String.empty_append]
          rfl

section Parts

variable (status : ExitStatus) (events : List Log.Event) (text : String) (notices : List String)
  (verbose : Bool)

/-- Of events, one output and notices, only the output goes to the standard output stream. -/
theorem stdout_mk :
    stdout ⟨status, events.map .event ++ .output text :: notices.map .notice, verbose⟩ =
      Emission.plain text := by
  have hevents : (events.flatMap fun e => (Emission.event e).onStdout.toList) = [] :=
    List.flatMap_eq_nil_iff.mpr fun _ _ => rfl
  have hnotices : (notices.flatMap fun t => (Emission.notice t).onStdout.toList) = [] :=
    List.flatMap_eq_nil_iff.mpr fun _ _ => rfl
  apply String.toList_inj.mp
  rw [stdout, String.toList_join, List.flatMap_map, List.flatMap_append, List.flatMap_cons,
    List.flatMap_map, List.flatMap_map, hevents, hnotices, List.nil_append, List.append_nil]
  rfl

/-- The log is no part of the notices. -/
theorem notices_events_append (later : List Emission) :
    Outcome.notices ⟨status, events.map .event ++ later, verbose⟩ =
      Outcome.notices ⟨status, later, verbose⟩ := by
  induction events with
  | nil => rfl
  | cons e events ih => exact ih

theorem notices_map_notice :
    Outcome.notices ⟨status, notices.map .notice, verbose⟩ = notices := by
  induction notices with
  | nil => rfl
  | cons text later ih => exact congrArg (text :: ·) ih

theorem notices_mk :
    Outcome.notices ⟨status, events.map .event ++ .output text :: notices.map .notice, verbose⟩ =
      notices := by
  rw [notices_events_append]
  exact notices_map_notice status notices verbose

end Parts

theorem stdout_eq_empty {o : Outcome} (h : ∀ e ∈ o.emissions, e.onStdout = "") :
    o.stdout = "" := by
  apply String.toList_inj.mp
  rw [stdout, String.toList_join, List.flatMap_map]
  exact List.flatMap_eq_nil_iff.mpr fun e he => by simp [h e he]

section Failures

variable (kind : FailureKind) (message : String) (label : Option String) (verbose : Bool)
  (events : List Log.Event)

theorem stdout_ofFailure : (ofFailure kind message label verbose events).stdout = "" := by
  apply stdout_eq_empty
  intro e he
  simp only [ofFailure, List.mem_append, List.mem_map, List.mem_singleton] at he
  obtain (⟨_, -, rfl⟩ | rfl) | htrace := he
  · rfl
  · rfl
  · split at htrace
    · rw [List.mem_singleton.mp htrace]
      rfl
    · cases htrace

theorem notices_ofFailure :
    (ofFailure kind message label verbose events).notices =
      (kind.lead label ++ message ++ "\n") ::
        if kind.isTraced verbose then [traceHeading] else [] := by
  rw [ofFailure, List.append_assoc, notices_events_append]
  split <;> rfl

end Failures

end Outcome

/-! ### Scans -/

namespace Scanned

section Success

variable (r : Scanned) (c : Logged Diagnostic.Collector) (s : ScanOptions)
  (events : List Log.Event)

theorem notices_success : (r.success c s events).notices = r.notices c.value s.verbose := by
  have houtput : ∀ later : List Emission,
      Outcome.notices ⟨.success, .output (r.output s.format) :: later, s.verbose⟩ =
        Outcome.notices ⟨.success, later, s.verbose⟩ := fun _ => rfl
  rw [success, List.append_assoc, List.cons_append, Outcome.notices_events_append, houtput,
    Outcome.notices_events_append, Outcome.notices_map_notice]

/-- A scan has finished its log when it begins to report. -/
theorem stderr_success :
    (r.success c s events).stderr =
      (r.success c s events).onlyLog.stderr ++ (r.success c s events).withoutLog.stderr := by
  apply Outcome.stderr_mk_append
  · simp
  · simp [Emission.isEvent]

end Success

/-- What a scan keeps of the errors that it has found. -/
def kept (r : Scanned) : Logged Diagnostic.Collector :=
  Diagnostic.Collector.filled r.config.errorLimit
    (Diagnostic.ofTokens r.tokens r.source r.path.text)

theorem accepted_eq_success {r : Scanned} {c : Logged Diagnostic.Collector}
    (h : r.collected = ⟨.ok c.value, c.events⟩) (s : ScanOptions) (events : List Log.Event) :
    r.accepted s events = r.success c s events := by
  rw [accepted, h]

end Scanned

/-- What has been scanned is rejected if the scan is strict and a token is an error. -/
theorem Scanned.rejection?_eq_none_iff {r : Scanned} :
    r.rejection? = none ↔ ¬(r.config.strict = true ∧ ∃ t ∈ r.tokens, t.isError = true) := by
  rw [rejection?]
  split
  · next hstrict => simp [hstrict, Diagnostic.first?_eq_none_iff]
  · next hlenient => simp [hlenient]

section Scans

variable {s : ScanOptions} {env : Environment} {disk : Disk} {r : Scanned}

theorem run_eq_scan {args : List String}
    (h : Request.ofArgs disk.isDirectory args = .ok (.scan s)) :
    run args env disk = scan s env disk := by
  rw [run, h]

theorem scan_eq_of_error {failure : Failure} (h : (scanFile s env disk).value = .error failure) :
    scan s env disk =
      Outcome.ofFailure failure.kind failure.message (some scanLabel) s.verbose
        (scanFile s env disk).events := by
  rw [scan, h]

theorem scan_eq_of_rejection {d : Diagnostic} (h : (scanFile s env disk).value = .ok r)
    (hrejection : r.rejection? = some (.ok d)) :
    scan s env disk =
      Outcome.ofFailure (.library .lexical) d.text (some scanLabel) s.verbose
        (scanFile s env disk).events := by
  simp only [scan, h, hrejection]
  rfl

theorem scan_eq_of_ok (h : (scanFile s env disk).value = .ok r)
    (hrejection : r.rejection? = none) :
    scan s env disk = r.accepted s (scanFile s env disk).events := by
  simp only [scan, h, hrejection]

/-! ### Scans that get as far as their text -/

section Found

variable {source : List Char} {p : Policy}

theorem rejection?_found :
    (s.found env source p).rejection? =
      (if (s.configuration env).strict then
        (Diagnostic.ofTokens (tokens p source) source (s.path (s.configuration env)).text).head?
      else none).map .ok := by
  rw [Scanned.rejection?, ScanOptions.found, Diagnostic.first?_tokens]
  split <;> rfl

/-- The first error of a text has a diagnostic. -/
theorem exists_of_rejection?_found {rejection : Except Text.Unwritable Diagnostic}
    (h : (s.found env source p).rejection? = some rejection) : ∃ d, rejection = .ok d := by
  rw [rejection?_found] at h
  obtain ⟨d, -, hd⟩ := Option.map_eq_some_iff.mp h
  exact ⟨d, hd.symm⟩

/-- The errors of a text are collected, up to a limit that can be written. -/
theorem collected_found (h : Text.Writable (s.configuration env).errorLimit) :
    (s.found env source p).collected =
      ⟨.ok (s.found env source p).kept.value, (s.found env source p).kept.events⟩ :=
  Diagnostic.collect_tokens p source _ fun _ => h

end Found

/-- A lenient scan that gets as far as its text succeeds. -/
theorem run_eq_of_lenient {args : List String} {bytes : List UInt8} {source : List Char}
    {p : Policy} (hrequest : Request.ofArgs disk.isDirectory args = .ok (.scan s))
    (hlenient : (s.configuration env).strict = false) (h : Reaches s env disk bytes source p) :
    run args env disk =
      (s.found env source p).success (s.found env source p).kept s
        (scanEvents s env bytes source p) := by
  have hfile := scanFile_eq h
  have haccepted : (s.found env source p).rejection? = none :=
    if_neg (Bool.eq_false_iff.mp hlenient)
  have hlimit := ScanOptions.isErrorLimit hrequest env
  rw [run_eq_scan hrequest, scan_eq_of_ok (by rw [hfile]) haccepted, hfile,
    Scanned.accepted_eq_success (collected_found hlimit.writable)]

end Scans

end UnitScan.Command

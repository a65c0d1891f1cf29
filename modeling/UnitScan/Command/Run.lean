import UnitScan.Command.Outcome
import UnitScan.Command.Request
import UnitScan.Diagnostic.OfTokens
import UnitScan.Scan
import UnitScan.Token.Listing
import UnitScan.Token.Rendering

/-!
# Running the command

A scan reads a definitions file, writes its tokens to the standard output stream, and reports
its lexical errors. A strict scan fails at the first lexical error and then writes no tokens.
A failed scan writes nothing to the standard output stream.
-/

namespace UnitScan.Command

/-- The label of the failures of a scan. -/
def scanLabel : String := "Scan"

/-- What a scan has found: the settings in effect, and the tokens of a file. -/
structure Scanned where
  config : Configuration
  path : Path
  source : List Char
  tokens : List Token

/-- Read and scan the file that the options and the environment name. -/
def scanFile (s : ScanOptions) (env : Environment) (disk : Disk) :
    Logged (Except Failure Scanned) := do
  let config := s.configure (← Configuration.ofEnvironment env)
  let path := s.path config
  Logged.note (.scanning path.text config.encoding)
  match ← config.readSource disk path with
  | .error failure => return .error (.reading failure)
  | .ok source =>
    match config.policy with
    | .error fault => return .error (.policy fault)
    | .ok policy => return .ok ⟨config, path, source, ← tokenize policy source⟩

namespace Scanned

/-- The first lexical error, if the scan is strict and there is one. -/
def rejection? (r : Scanned) : Option (Except Text.Unwritable Diagnostic) :=
  if r.config.strict then Diagnostic.first? r.tokens r.source r.path.text else none

/-- The lexical errors, up to the limit. -/
def collected (r : Scanned) : Logged (Except Text.Unwritable Diagnostic.Collector) :=
  Diagnostic.collect r.tokens r.source r.path.text r.config.errorLimit

/-- A text that ends in a newline. -/
def terminated (text : String) : String :=
  if text.toList.getLast? = some '\n' then text else text ++ "\n"

/-- The tokens in the form that was asked for. -/
def output (r : Scanned) : Format → String
  | .text => terminated (Token.renderAll r.tokens)
  | .list => Token.listing r.tokens ++ "\n"

/-- What a verbose scan says at its end. -/
def summary (r : Scanned) (c : Diagnostic.Collector) : String :=
  "Scanned " ++ toString r.tokens.length ++ " tokens, " ++ toString c.count ++
    " lexical error(s)\n"

/-- What a scan says about the errors that it has collected. -/
def notices (r : Scanned) (c : Diagnostic.Collector) (verbose : Bool) : List String :=
  (if c.hasErrors then [c.report ++ "\n"] else []) ++ if verbose then [r.summary c] else []

/-- The outcome of a scan that has collected its errors, after the given events. -/
def success (r : Scanned) (collected : Logged Diagnostic.Collector) (s : ScanOptions)
    (events : List Log.Event) : Outcome where
  status := .success
  emissions :=
    events.map .event ++ .output (r.output s.format) :: collected.events.map .event ++
      (r.notices collected.value s.verbose).map .notice
  verbose := s.verbose

/-- The outcome of a scan that is not rejected, after the given events. The tokens are written
before the errors are collected. -/
def accepted (r : Scanned) (s : ScanOptions) (events : List Log.Event) : Outcome :=
  match r.collected with
  | ⟨.ok c, logged⟩ => r.success ⟨c, logged⟩ s events
  | ⟨.error fault, logged⟩ =>
    let failure := Failure.unwritable fault
    (Outcome.ofFailure failure.kind failure.message (some scanLabel) s.verbose logged).after
      (events.map .event ++ [.output (r.output s.format)])

end Scanned

/-- The outcome of a scan. -/
def scan (s : ScanOptions) (env : Environment) (disk : Disk) : Outcome :=
  let result := scanFile s env disk
  let failed (failure : Failure) :=
    Outcome.ofFailure failure.kind failure.message (some scanLabel) s.verbose result.events
  match result.value with
  | .error failure => failed failure
  | .ok r =>
    match r.rejection? with
    | some rejection => failed (.ofDiagnostic rejection)
    | none => r.accepted s result.events

/-- The outcome of the command. -/
def run (args : List String) (env : Environment) (disk : Disk) : Outcome :=
  match Request.ofArgs disk.isDirectory args with
  | .error e => { status := .invalidArguments, emissions := [.notice e.text] }
  | .ok .help => { status := .success, emissions := [.output helpText] }
  | .ok .version => { status := .success, emissions := [.output versionText] }
  | .ok (.scan options) => scan options env disk

end UnitScan.Command

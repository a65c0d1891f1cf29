import UnitScan.Command.Failure
import UnitScan.Text.EscapeCodes

/-!
# Outcomes of a command

Everything that a run of the command gives out, in order, and how it ends. The log goes to
the standard error stream, between the other texts there. A verbose run shows every event with
its level, any other run only the message of those that matter.
-/

namespace UnitScan.Command

/-- One thing that a run gives out. -/
inductive Emission
  /-- An event of the log. -/
  | event (e : Log.Event)
  /-- Text on the standard output stream. -/
  | output (text : String)
  /-- Text on the standard error stream. -/
  | notice (text : String)
  deriving DecidableEq, Repr

namespace Emission

/-- A text without terminal escape codes. -/
def plain (text : String) : String := String.ofList (Text.withoutEscapeCodes text.toList)

/-- The line of the log for an event, if the event is shown. -/
def eventLine (verbose : Bool) (e : Log.Event) : String :=
  if verbose then e.level.name ++ ": " ++ e.message ++ "\n"
  else if e.level = .debug then "" else e.message ++ "\n"

/-- What goes to the standard output stream. -/
def onStdout : Emission → String
  | output text => plain text
  | event _ | notice _ => ""

/-- What goes to the standard error stream. -/
def onStderr (verbose : Bool) : Emission → String
  | event e => eventLine verbose e
  | notice text => plain text
  | output _ => ""

end Emission

/-- What a run gives out, and how it ends. -/
structure Outcome where
  status : ExitStatus
  emissions : List Emission
  verbose : Bool := false
  deriving DecidableEq, Repr

namespace Outcome

/-- The standard output stream. -/
def stdout (o : Outcome) : String := String.join (o.emissions.map Emission.onStdout)

/-- The standard error stream. -/
def stderr (o : Outcome) : String :=
  String.join (o.emissions.map (Emission.onStderr o.verbose))

/-- The outcome of a failure, after the given events. -/
def ofFailure (kind : FailureKind) (message : String) (label : Option String) (verbose : Bool)
    (events : List Log.Event) : Outcome where
  status := kind.status
  emissions :=
    events.map .event ++ [.notice (kind.lead label ++ message ++ "\n")] ++
      if kind.isTraced verbose then [.notice traceHeading] else []
  verbose := verbose

/-- An outcome with something given out before everything else. -/
def after (o : Outcome) (earlier : List Emission) : Outcome :=
  { o with emissions := earlier ++ o.emissions }

end Outcome

end UnitScan.Command

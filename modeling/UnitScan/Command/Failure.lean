import UnitScan.Configuration
import UnitScan.Diagnostic
import UnitScan.ErrorClass

/-!
# Failures of a command

How a command ends when something goes wrong: the kind of failure decides the exit status and
the wording around the message.
-/

namespace UnitScan.Command

/-- How a command ends. -/
inductive ExitStatus
  | success
  /-- A lexical, stream or configuration error. -/
  | lexicalError
  /-- Invalid arguments or a missing file. -/
  | invalidArguments
  /-- An error that the command does not expect. -/
  | internalError
  deriving DecidableEq, Repr

namespace ExitStatus

/-- All ways to end, in the order of their codes. -/
def all : List ExitStatus := [success, lexicalError, invalidArguments, internalError]

/-- The exit code. -/
def code : ExitStatus → Nat
  | success => 0
  | lexicalError => 1
  | invalidArguments => 2
  | internalError => 3

/-- The name of an exit status. -/
def name : ExitStatus → String
  | success => "SUCCESS"
  | lexicalError => "LEXICAL_ERROR"
  | invalidArguments => "INVALID_ARGS"
  | internalError => "INTERNAL_ERROR"

end ExitStatus

/-- The kinds of failure that a command tells apart. -/
inductive FailureKind
  /-- An error of the library. -/
  | library (c : ErrorClass)
  /-- A parameter of the command has a bad value. -/
  | badParameter
  /-- A file is missing. -/
  | fileNotFound
  /-- A file may not be read. -/
  | permissionDenied
  /-- Anything else. -/
  | unexpected
  deriving DecidableEq, Repr

namespace FailureKind

/-- The kind of failure that a fault of a file is. -/
def ofFileFault : FileFault → FailureKind
  | .notFound => fileNotFound
  | .permissionDenied => permissionDenied
  | .notDirectory | .isDirectory | .nameTooLong => unexpected

/-- The exit status after a failure. -/
def status : FailureKind → ExitStatus
  | library _ => .lexicalError
  | badParameter | fileNotFound | permissionDenied => .invalidArguments
  | unexpected => .internalError

/-- What stands before the message of a failure. Lexical errors have a header of their own. -/
def lead (kind : FailureKind) (label : Option String) : String :=
  match kind with
  | library c =>
    if c.isA .lexical then ""
    else match label.filter (!·.isEmpty) with
      | some label => label ++ " error: "
      | none => "Error: "
  | badParameter | fileNotFound | permissionDenied => "Error: "
  | unexpected => "Internal error: "

/-- Whether the place of a failure in the program is traced. -/
def isTraced (kind : FailureKind) (verbose : Bool) : Bool := kind = unexpected && verbose

end FailureKind

/-- The first line of a trace. -/
def traceHeading : String := "Traceback (most recent call last):\n"

/-- Why a scan of a file failed. -/
inductive Failure
  | lexical (d : Diagnostic)
  | policy (fault : Policy.Fault)
  | reading (failure : Configuration.ReadFailure)
  /-- Something that has to be reported has no text. -/
  | unwritable (fault : Text.Unwritable)
  deriving DecidableEq, Repr

namespace Failure

/-- The failure at a diagnostic, or at one that cannot be made. -/
def ofDiagnostic : Except Text.Unwritable Diagnostic → Failure
  | .ok d => lexical d
  | .error fault => unwritable fault

/-- The kind of a failure. -/
def kind : Failure → FailureKind
  | lexical _ => .library .lexical
  | policy _ => .library .policy
  | reading (.file fault _) => .ofFileFault fault
  | reading (.unknownEncoding _) => .library .configuration
  | unwritable _ => .unexpected

/-- The message of a failure. -/
def message : Failure → String
  | lexical d => d.text
  | policy fault => fault.message
  | reading failure => failure.message
  | unwritable fault => fault.message

end Failure

end UnitScan.Command

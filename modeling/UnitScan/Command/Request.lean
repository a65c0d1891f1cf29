import UnitScan.Command.CommandLine
import UnitScan.Configuration

/-!
# Requests

What a command line asks for: help, the version, or a scan. A request for help or for the
version wins over everything else in a command line that can be read. Otherwise the values
are checked, in the order of the first uses of their options, then the input file, and last
the number of arguments.
-/

namespace UnitScan.Command

/-- The form of the output. -/
inductive Format
  | text
  | list
  deriving DecidableEq, Repr

namespace Format

/-- The characters that a character is compared as, when case does not count. Besides the
ASCII letters, only the long s and the two ligatures of s and t are compared as ASCII. -/
def foldCase (c : Char) : List Char :=
  if c = '\u017F' then ['s']
  else if c = '\uFB05' ∨ c = '\uFB06' then ['s', 't']
  else [c.toLower]

/-- The form with a given name. -/
def ofName? (name : String) : Option Format :=
  let folded := String.ofList (name.toList.flatMap foldCase)
  if folded = "text" then some .text else if folded = "list" then some .list else none

end Format

/-- The choices for one scan. -/
structure ScanOptions where
  format : Format := .text
  strict : Bool := false
  errorLimit : Option Int := none
  comment : Option String := none
  verbose : Bool := false
  /-- The file to scan, as it is written. -/
  input : Option String := none
  deriving DecidableEq, Repr

/-- What a command line asks for. -/
inductive Request
  | help
  | version
  | scan (options : ScanOptions)
  deriving DecidableEq, Repr

namespace Request

/-- The error limit that a value stands for. -/
def readLimit (value : String) : Except UsageError Int :=
  match Text.integer? value.toList with
  | none => .error (.limitNotInteger value)
  | some limit => if 1 ≤ limit then .ok limit else .error (.limitTooSmall limit)

/-- The form of the output that a value stands for. -/
def readFormat (value : String) : Except UsageError Format :=
  match Format.ofName? value with
  | none => .error (.unknownFormat value)
  | some format => .ok format

/-- Take an option of a command line into account. -/
def applyOption (line : CommandLine) (s : ScanOptions) (option : OptionName) :
    Except UsageError ScanOptions :=
  match option, line.lastValue? option with
  | .format, some value => (readFormat value).map fun format => { s with format }
  | .errorLimit, some value =>
    (readLimit value).map fun limit => { s with errorLimit := some limit }
  | .comment, value => .ok { s with comment := value }
  | .strict, _ => .ok { s with strict := true }
  | .verbose, _ => .ok { s with verbose := true }
  | _, _ => .ok s

/-- Take the arguments of a command line into account. -/
def applyArguments (isDirectory : String → Bool) (arguments : List String) (s : ScanOptions) :
    Except UsageError ScanOptions :=
  match arguments with
  | [] => .ok s
  | input :: extra =>
    if isDirectory input then .error (.inputIsDirectory input)
    else if extra.isEmpty then .ok { s with input := some input }
    else .error (.extraArguments extra)

/-- The request for help or for the version that comes first in a command line. -/
def ofUses? : List OptionUse → Option Request
  | [] => none
  | use :: later =>
    match use.option with
    | .help => some help
    | .version => some version
    | _ => ofUses? later

/-- What a command line asks for. -/
def ofCommandLine (isDirectory : String → Bool) (line : CommandLine) :
    Except UsageError Request :=
  match ofUses? line.uses with
  | some request => .ok request
  | none => do
    let options ← line.options.foldlM (applyOption line) {}
    return .scan (← applyArguments isDirectory line.arguments options)

/-- What the arguments of the command ask for. -/
def ofArgs (isDirectory : String → Bool) (args : List String) : Except UsageError Request := do
  ofCommandLine isDirectory (← CommandLine.ofArgs args)

end Request

namespace ScanOptions

/-- A configuration with the choices put in place of its own. -/
def configure (s : ScanOptions) (c : Configuration) : Configuration :=
  { c with
    strict := s.strict || c.strict
    errorLimit := s.errorLimit.getD c.errorLimit
    comment := s.comment.elim c.comment Configuration.commentOfText }

/-- The file to scan under a configuration. -/
def path (s : ScanOptions) (c : Configuration) : Path :=
  s.input.elim c.definitions Path.ofText

end ScanOptions

end UnitScan.Command

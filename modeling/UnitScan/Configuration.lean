import UnitScan.Encoding
import UnitScan.FileTree
import UnitScan.Log
import UnitScan.Policy
import UnitScan.Text.Integer

/-!
# Configuration

How a definitions file is found, decoded and scanned. The defaults can be changed by
environment variables; a variable that is empty changes nothing, except that an empty comment
marker turns comments off.

## Implementation notes

An error limit that is not a positive integer is noted in the log and otherwise ignored, so
the limit in effect is always positive. A file without a byte is the empty text in every
encoding, also in one that is not known.
-/

namespace UnitScan

/-- Names of environment variables with their values. -/
abbrev Environment := List (String × String)

/-- How a definitions file is found, decoded and scanned. -/
structure Configuration where
  /-- The file that is read when no other one is named. -/
  definitions : Path := .ofText "definitions.units"
  /-- The name of the encoding of definitions files. -/
  encoding : String := "utf-8"
  /-- The comment marker, unless comments are turned off. -/
  comment : Option String := some "#"
  /-- How many lexical errors are reported. -/
  errorLimit : Int := 100
  /-- Whether the first lexical error ends the work. -/
  strict : Bool := false
  deriving DecidableEq, Repr

namespace Configuration

/-- The variable that names the definitions file. -/
def definitionsVariable : String := "UNITLEX_DEFINITIONS"

/-- The variable that names the encoding. -/
def encodingVariable : String := "UNITLEX_ENCODING"

/-- The variable that holds the comment marker. -/
def commentVariable : String := "UNITLEX_COMMENT_CHAR"

/-- The variable that holds the error limit. -/
def errorLimitVariable : String := "UNITLEX_MAX_ERRORS"

/-- The variable that turns strictness on or off. -/
def strictVariable : String := "UNITLEX_STRICT"

/-- The variables that are read. -/
def variableNames : List String :=
  [definitionsVariable, encodingVariable, commentVariable, errorLimitVariable, strictVariable]

/-- The value of a variable that is set and not empty. -/
def setting? (env : Environment) (name : String) : Option String :=
  (env.lookup name).filter fun value => !value.isEmpty

/-- The comment marker that a text stands for: none, if the text is empty. -/
def commentOfText (text : String) : Option String := if text.isEmpty then none else some text

/-- The error limit that a text stands for. -/
def errorLimit? (text : String) : Option Int :=
  (Text.integer? text.toList).filter fun limit => 1 ≤ limit

/-- The texts that turn strictness on. -/
def affirmatives : List String := ["1", "true", "yes", "on"]

/-- Whether a text turns strictness on. -/
def isAffirmative (text : String) : Bool :=
  affirmatives.contains (String.ofList ((Text.trim text.toList).map Char.toLower))

/-- The error limit set by the environment, or the given one. -/
def readErrorLimit (env : Environment) (default : Int) : Logged Int :=
  match setting? env errorLimitVariable with
  | none => pure default
  | some text =>
    match errorLimit? text with
    | some limit => pure limit
    | none => do
      Logged.note (.limitIgnored text)
      return default

/-- The configuration that the environment sets. -/
def ofEnvironment (env : Environment) : Logged Configuration := do
  let base : Configuration := {}
  let errorLimit ← readErrorLimit env base.errorLimit
  return {
    definitions := (setting? env definitionsVariable).elim base.definitions Path.ofText
    encoding := (setting? env encodingVariable).getD base.encoding
    comment := (env.lookup commentVariable).elim base.comment commentOfText
    errorLimit
    strict := (setting? env strictVariable).elim base.strict isAffirmative }

/-- The policy of a configuration, unless its comment marker is at fault. -/
def policy (c : Configuration) : Except Policy.Fault Policy :=
  Policy.Settings.accept { comment := c.comment }

/-- Why a definitions file gave no text. -/
inductive ReadFailure
  | file (fault : FileFault) (path : Path)
  | unknownEncoding (name : String)
  deriving DecidableEq, Repr

/-- What a failure to read is reported as. -/
def ReadFailure.message : ReadFailure → String
  | file fault path => fault.message path.text
  | unknownEncoding name => "unknown encoding '" ++ name ++ "'"

/-- The text of the given bytes, if there are none or the encoding is known. -/
def decode? (encoding : String) (bytes : List UInt8) : Option (List Char) :=
  if bytes.isEmpty then some [] else (Encoding.ofName? encoding).map (·.decode bytes)

/-- Read and decode a definitions file. -/
def readSource (c : Configuration) (disk : Disk) (path : Path) :
    Logged (Except ReadFailure (List Char)) :=
  match disk.read path with
  | .error fault => pure (.error (.file fault path))
  | .ok bytes =>
    match decode? c.encoding bytes with
    | none => pure (.error (.unknownEncoding c.encoding))
    | some text => do
      Logged.note (.sourceRead bytes.length path.text)
      return .ok text

end Configuration

end UnitScan

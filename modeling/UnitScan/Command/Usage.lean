import UnitScan.Text.Quoted

/-!
# Usage of the command

The name of the command, its options, its help text, and what it says about a command line
that it cannot make sense of.
-/

namespace UnitScan.Command

/-- The name of the command. -/
def name : String := "unitlex-tokens"

/-- The version of the command. -/
def version : String := "1.0.0"

/-- The options of the command. -/
inductive OptionName
  | format
  | strict
  | errorLimit
  | comment
  | verbose
  | version
  | help
  deriving DecidableEq, Repr

namespace OptionName

/-- All options. -/
def all : List OptionName := [format, strict, errorLimit, comment, verbose, version, help]

/-- The long form of an option. -/
def long : OptionName → String
  | format => "--format"
  | strict => "--strict"
  | errorLimit => "--max-errors"
  | comment => "--comment-char"
  | verbose => "--verbose"
  | version => "--version"
  | help => "--help"

/-- The letter of the short form of an option, if it has one. -/
def short? : OptionName → Option Char
  | format => some 'f'
  | verbose => some 'v'
  | strict | errorLimit | comment | version | help => none

/-- Whether an option has a value. -/
def takesValue : OptionName → Bool
  | format | errorLimit | comment => true
  | strict | verbose | version | help => false

/-- The option of a long form. -/
def ofLong? (text : String) : Option OptionName := all.find? (·.long = text)

/-- The option of a letter. -/
def ofShort? (letter : Char) : Option OptionName := all.find? (·.short? = some letter)

end OptionName

/-- What can be wrong with a command line. -/
inductive UsageError
  /-- An option lacks its value. -/
  | missingValue (option : String)
  /-- An option without a value was given one. -/
  | unexpectedValue (option : String)
  /-- There is no such option. -/
  | unknownOption (option : String)
  /-- The output format is none of the known ones. -/
  | unknownFormat (value : String)
  /-- The error limit is no integer. -/
  | limitNotInteger (value : String)
  /-- The error limit is not positive. -/
  | limitTooSmall (value : Int)
  /-- The input file is a directory. -/
  | inputIsDirectory (path : String)
  /-- There are arguments after the input file. -/
  | extraArguments (arguments : List String)
  deriving DecidableEq, Repr

namespace UsageError

/-- What is wrong, in words. -/
def message : UsageError → String
  | missingValue option => "Option " ++ Text.quoted option ++ " requires an argument."
  | unexpectedValue option => "Option " ++ Text.quoted option ++ " does not take a value."
  | unknownOption option => "No such option " ++ Text.quoted option ++ "."
  | unknownFormat value =>
    "Invalid value for '-f' / '--format': " ++ Text.quoted value ++
      " is not one of 'text', 'list'."
  | limitNotInteger value =>
    "Invalid value for '--max-errors': " ++ Text.quoted value ++
      " is not a valid integer range."
  | limitTooSmall value =>
    "Invalid value for '--max-errors': " ++ toString value ++ " is not in the range x>=1."
  | inputIsDirectory path =>
    "Invalid value for '[INPUT_FILE]': File " ++ Text.quoted path ++ " is a directory."
  | extraArguments arguments =>
    "Got unexpected extra argument" ++ (if arguments.length = 1 then "" else "s") ++
      " (" ++ " ".intercalate arguments ++ ")"

/-- Whether the usage of the command is shown before the message. -/
def showsUsage : UsageError → Bool
  | missingValue _ | unexpectedValue _ => false
  | _ => true

end UsageError

/-- The line that shows how the command is used. -/
def usageLine : String := "Usage: " ++ name ++ " [OPTIONS] [INPUT_FILE]\n"

/-- What is shown before most messages about the command line. -/
def usageHint : String := usageLine ++ "Try '" ++ name ++ " --help' for help.\n\n"

/-- The full text of a message about the command line. -/
def UsageError.text (e : UsageError) : String :=
  (if e.showsUsage then usageHint else "") ++ "Error: " ++ e.message ++ "\n"

/-- What the command says about its version. -/
def versionText : String := name ++ ", version " ++ version ++ "\n"

/-- What the command says about itself. -/
def helpText : String := usageLine ++ "
  Print the tokens of a unit definitions file.

  INPUT_FILE defaults to the configured definitions file (UNITLEX_DEFINITIONS,
  or definitions.units).

  Examples:
      unitlex-tokens                    # Scan definitions.units
      unitlex-tokens units.dat -f list  # Token listing
      unitlex-tokens --strict units.dat # Stop at first error

Options:
  -f, --format [text|list]    text: reconstructed source (default). list: one
                              token per line with location.
  --strict                    Exit with an error at the first lexical error
  --max-errors INTEGER RANGE  Maximum number of lexical errors to report
                              (default: 100)  [x>=1]
  --comment-char TEXT         Comment marker (default: '#'; empty string
                              disables comments)
  -v, --verbose               Verbose output
  --version                   Show the version and exit.
  --help                      Show this message and exit.
"

end UnitScan.Command

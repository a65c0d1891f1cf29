import UnitScan.Command.Usage

/-!
# Command lines

A command line is read in one pass from the left into the options that it uses and its
arguments. Options and arguments may be mixed; two hyphens alone end the options.

## Implementation notes

A value may stand in the same argument as its option or be the next argument, whatever that
looks like. An argument of one hyphen followed by letters is a run of short options; the
first of them that has a value takes the remaining characters as its value.
-/

namespace UnitScan.Command

/-- One use of an option, with its value if it has one. -/
structure OptionUse where
  option : OptionName
  value : Option String := none
  deriving DecidableEq, Repr

/-- The options that a command line uses, and its arguments, in order. -/
structure CommandLine where
  uses : List OptionUse := []
  arguments : List String := []
  deriving DecidableEq, Repr

namespace CommandLine

/-- Use an option whose value is the next argument. -/
def takeValue (option : OptionName) (written : String) :
    List String → Except UsageError (List OptionUse × List String)
  | [] => .error (.missingValue written)
  | value :: rest => .ok ([⟨option, some value⟩], rest)

/-- The uses in a run of short options, and the arguments left after it. -/
def readShort : List Char → List String → Except UsageError (List OptionUse × List String)
  | [], rest => .ok ([], rest)
  | letter :: letters, rest =>
    match OptionName.ofShort? letter with
    | none => .error (.unknownOption (String.ofList ['-', letter]))
    | some option =>
      if option.takesValue then
        match letters with
        | [] => takeValue option (String.ofList ['-', letter]) rest
        | _ => .ok ([⟨option, some (String.ofList letters)⟩], rest)
      else
        match readShort letters rest with
        | .error e => .error e
        | .ok (uses, rest) => .ok (⟨option, none⟩ :: uses, rest)

/-- The use of a long option, and the arguments left after it. -/
def readLong (option : OptionName) (value : Option String) (rest : List String) :
    Except UsageError (List OptionUse × List String) :=
  match option.takesValue, value with
  | true, some value => .ok ([⟨option, some value⟩], rest)
  | true, none => takeValue option option.long rest
  | false, some _ => .error (.unexpectedValue option.long)
  | false, none => .ok ([⟨option, none⟩], rest)

/-- The part of an argument before its first equals sign, and the part after it. -/
def splitValue (arg : List Char) : String × Option String :=
  (String.ofList (arg.takeWhile (· ≠ '=')),
    (arg.dropWhile (· ≠ '=')).tail?.map String.ofList)

/-- The uses in an argument that is an option, and the arguments left after it. -/
def readOption (arg : String) (rest : List String) :
    Except UsageError (List OptionUse × List String) :=
  let (head, value) := splitValue arg.toList
  match OptionName.ofLong? head with
  | some option => readLong option value rest
  | none =>
    if ['-', '-'].isPrefixOf arg.toList then .error (.unknownOption head)
    else readShort (arg.toList.drop 1) rest

/-- Whether an argument is an option. -/
def isOption (arg : String) : Bool := arg.toList.head? = some '-' && arg.length ≠ 1

theorem length_takeValue_le {option : OptionName} {written : String} {args rest : List String}
    {uses : List OptionUse} (h : takeValue option written args = .ok (uses, rest)) :
    rest.length ≤ args.length := by
  cases args with
  | nil => cases h
  | cons value args =>
    cases h
    exact Nat.le_succ _

theorem length_readShort_le {letters : List Char} {args rest : List String}
    {uses : List OptionUse} (h : readShort letters args = .ok (uses, rest)) :
    rest.length ≤ args.length := by
  induction letters generalizing uses with
  | nil =>
    cases h
    exact Nat.le_refl _
  | cons letter letters ih =>
    unfold readShort at h
    split at h
    · cases h
    · split at h
      · split at h
        · exact length_takeValue_le h
        · cases h
          exact Nat.le_refl _
      · split at h
        · cases h
        · next heq =>
          cases h
          exact ih heq

theorem length_readLong_le {option : OptionName} {value : Option String}
    {args rest : List String} {uses : List OptionUse}
    (h : readLong option value args = .ok (uses, rest)) : rest.length ≤ args.length := by
  unfold readLong at h
  split at h
  · cases h
    exact Nat.le_refl _
  · exact length_takeValue_le h
  · cases h
  · cases h
    exact Nat.le_refl _

theorem length_readOption_le {arg : String} {args rest : List String} {uses : List OptionUse}
    (h : readOption arg args = .ok (uses, rest)) : rest.length ≤ args.length := by
  simp only [readOption] at h
  split at h
  · exact length_readLong_le h
  · split at h
    · cases h
    · exact length_readShort_le h

/-- Read a command line, or find the first argument that makes no sense. -/
def ofArgs : List String → Except UsageError CommandLine
  | [] => .ok {}
  | arg :: rest =>
    if arg = "--" then .ok { arguments := rest }
    else if isOption arg then
      match _h : readOption arg rest with
      | .error e => .error e
      | .ok (uses, rest) =>
        (ofArgs rest).map fun line => { line with uses := uses ++ line.uses }
    else (ofArgs rest).map fun line => { line with arguments := arg :: line.arguments }
termination_by args => args.length
decreasing_by
  · exact Nat.lt_succ_of_le (length_readOption_le _h)
  · exact Nat.lt_succ_self _

/-- The options that a command line uses, in the order of their first uses. -/
def options (line : CommandLine) : List OptionName := (line.uses.map (·.option)).eraseDups

/-- The value that an option was last used with. -/
def lastValue? (line : CommandLine) (option : OptionName) : Option String :=
  ((line.uses.filter (·.option = option)).getLast?).bind (·.value)

end CommandLine

end UnitScan.Command

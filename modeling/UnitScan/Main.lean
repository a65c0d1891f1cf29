import UnitScan.Command.Run

/-!
# The command

The outer layer of the command: it asks the operating system for the environment and for the
one file that a run reads, lets `Command.run` decide everything, and writes out the result.
-/

namespace UnitScan.Main

/-- The fault that an error of the operating system is. -/
def faultOf : IO.Error → FileFault
  | .permissionDenied .. => .permissionDenied
  | .inappropriateType _ number _ =>
    if number.toNat = FileFault.isDirectory.number then .isDirectory else .notDirectory
  | .invalidArgument .. => .nameTooLong
  | _ => .notFound

/-- The fault of reading a path, as it is written, if there is one. -/
def faultAt? (path : String) : IO (Option FileFault) := do
  try
    let handle ← IO.FS.Handle.mk path .read
    discard <| handle.read 1
    return none
  catch e => return some (faultOf e)

/-- The bytes of the file that a path leads to. -/
def readFile (path : Path) : IO (Except FileFault (List UInt8)) := do
  try
    return .ok (← IO.FS.readBinFile path.text).toList
  catch e => return .error (faultOf e)

/-- The variables of the environment that are set. -/
def environment : IO Environment :=
  Configuration.variableNames.filterMapM fun name => do
    return (← IO.getEnv name).map (name, ·)

/-- The file that the arguments and the environment name, if they ask for a scan. -/
def pathOf? (args : List String) (env : Environment) : Option Path :=
  match Command.Request.ofArgs (fun _ => false) args with
  | .ok (.scan options) => some (options.path (Configuration.ofEnvironment env).value)
  | _ => none

/-- What a run needs to know of the file system. -/
def disk (args : List String) (env : Environment) : IO Disk := do
  let inputs := ((Command.CommandLine.ofArgs args).toOption.map (·.arguments)).getD []
  let directories ← inputs.filterM fun input => do
    return (← faultAt? input) = some .isDirectory
  let bytes ← match pathOf? args env with
    | some path => readFile path
    | none => pure (.error .notFound)
  return { isDirectory := directories.contains, read := fun _ => bytes }

end UnitScan.Main

/-- The entry point of the command. -/
def main (args : List String) : IO UInt32 := do
  let env ← UnitScan.Main.environment
  let outcome := UnitScan.Command.run args env (← UnitScan.Main.disk args env)
  (← IO.getStdout).putStr outcome.stdout
  (← IO.getStderr).putStr outcome.stderr
  return outcome.status.code.toUInt32

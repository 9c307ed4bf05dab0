import Hex8.Cli.Simulate

set_option relaxedAutoImplicit false
set_option autoImplicit false

/-!
# The command line

The first argument names the tool, the others are its own.

## Main definitions

* `main` — runs a tool on the files of the system.
-/

namespace Hex8.Cli

/-- Why the system cannot read or write a file. The number of its error may have a minus sign. -/
def fileErrorOfSystem (error : IO.Error) : FileError :=
  let known? (number : UInt32) := FileError.ofNumber? (min number (0 - number)).toNat
  let cause? :=
    match error with
    | .noFileOrDirectory _ number _ | .noSuchThing _ number _ | .inappropriateType _ number _
    | .invalidArgument _ number _ | .resourceExhausted _ number _ => known? number
    | _ => none
  cause?.getD (.other (toString error))

/-- The files of the system. -/
instance : MonadFiles IO where
  readFile path := do
    try
      return .ok (← IO.FS.readBinFile path)
    catch error =>
      return .error (fileErrorOfSystem error)
  writeFile path content := do
    try
      IO.FS.withFile path .write fun file => do
        file.write content
        file.flush
      return .ok ()
    catch error =>
      return .error (fileErrorOfSystem error)

/-- The tool with the given name at work. -/
def runTool (name : String) (arguments : List String) : IO Outcome :=
  match name with
  | "h8sim" => simulateTool arguments
  | "h8as" => assembleTool arguments
  | _ => pure (.ofUsageError (simulateUsage ++ assembleUsage))

end Hex8.Cli

/-- Runs the tool that the first argument names. -/
def main (arguments : List String) : IO UInt32 := do
  let outcome ← Hex8.Cli.runTool (arguments.headD "") arguments.tail
  (← IO.getStdout).putStr outcome.stdout
  (← IO.getStderr).putStr outcome.stderr
  return outcome.exitCode.toUInt32

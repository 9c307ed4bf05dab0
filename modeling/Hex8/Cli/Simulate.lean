import Hex8.Cli.Assemble
import Hex8.Log.Run
import Hex8.Memory.Dump

set_option relaxedAutoImplicit false
set_option autoImplicit false

/-!
# The simulating tool

`h8sim` assembles the text in a file and runs the program: on the reference machine, on a core, or
on both in order to compare them.

## Main definitions

* `Hex8.Cli.SimulateArgs` — the command line of the tool.
* `Hex8.Cli.simulateTool` — the tool.
-/

namespace Hex8.Cli

/-- The command line of the simulating tool. -/
structure SimulateArgs where
  /-- The file with the text. -/
  input : String
  /-- The core to run the program on. -/
  arch : Option String
  /-- How many instructions are run. -/
  steps : Nat
  /-- How many cycles a core may run. -/
  maxCycles : Nat
  /-- Whether cores are compared with the reference machine. -/
  verify : Bool
  /-- Whether each instruction is printed. -/
  trace : Bool
  /-- Whether the data memory is printed in the end. -/
  dump : Bool
  /-- The log file. -/
  log : Option String
  /-- How many messages are wanted. -/
  verbosity : Verbosity

namespace SimulateArgs

/-- The options of the tool. -/
def options : List OptionSpec :=
  [⟨"arch", some 'a', true⟩, ⟨"steps", some 'n', true⟩, ⟨"max-cycles", none, true⟩,
    ⟨"verify", none, false⟩, ⟨"trace", none, false⟩, ⟨"dump", none, false⟩,
    ⟨"log", none, true⟩] ++ verbosityOptions

/-- The command line with the given arguments. -/
def ofArguments? (arguments : List String) : Option SimulateArgs := do
  let items ← scan options arguments
  let input ← positional? items
  let arch ← value? "arch" items
  let steps ← number? "steps" 64 items
  let maxCycles ← number? "max-cycles" 100000 items
  let verify ← flag? "verify" items
  let trace ← flag? "trace" items
  let dump ← flag? "dump" items
  let log ← value? "log" items
  let verbosity ← verbosity? items
  return { input, arch, steps, maxCycles, verify, trace, dump, log, verbosity }

/-- How long the cores are held in reset, and how long they may run. -/
def runOptions (args : SimulateArgs) : RunOptions :=
  { maxCycles := args.maxCycles }

end SimulateArgs

/-- A register with its value, the name in four columns. -/
def registerLine (name : String) (value : UInt8) : String :=
  Column.right ' ' 4 name ++ " = " ++ Hex.prefixedByte value ++ "\n"

/-- The instructions of a run, with their indices in five columns. -/
def traceText (records : List Record) : String :=
  String.join (records.mapIdx fun i record =>
    Column.right ' ' 5 (toString i) ++ " " ++ record.text ++ "\n")

namespace Session

variable {m : Type → Type} [Monad m]

/-- Runs a program on the reference machine. -/
def runMachine (program : Program) (steps : Nat) : Session m (List Record × Machine) := do
  let (records, machine) ←
    orAbort (fun crash => .crash crash.message) (collectTrace program steps)
  say .trace fun () => machineEvents records
  return (records, machine)

/-- Says how a core has run. -/
def sayCoreRun (core : Core) (options : RunOptions) (program : Program)
    (result : Except CycleLimit (List Record × Simulator core)) : Session m Unit :=
  say .info fun () =>
    match result with
    | .ok (records, simulator) =>
      coreEvents core options program records.length (simulator.cycles - options.resetCycles)
    | .error limit => coreEvents core options program limit.retired options.maxCycles

/-- Runs a program on a core. -/
def runCore (core : Core) (options : RunOptions) (program : Program) (steps : Nat) :
    Session m (List Record × Simulator core) := do
  let result := traceCore core options program steps
  sayCoreRun core options program result
  orFail (fun limit => [limit.message]) result

/-- Compares a core with the reference machine. -/
def verifyCore (arch : Arch) (options : RunOptions) (program : Program) (steps : Nat) :
    Session m Unit := do
  let (expected, machine) ← runMachine program steps
  sayCoreRun arch.core options program (traceCore arch.core options program steps)
  match verdict arch.core options program steps expected machine with
  | .ok () => print (arch.name ++ ": " ++ toString steps ++ " instructions match\n")
  | .error error =>
    match error with
    | .cycles _ => pure ()
    | .trace mismatch => say .warn fun () => mismatchEvents mismatch
    | .memory wanted found => print (wanted.difference found)
    fail (error.chain arch.name)

/-- The architecture with a name. -/
def findArch (describe : String → String) (name : String) : Session m Arch :=
  match Arch.ofName? name with
  | some arch => pure arch
  | none => fail [describe name]

end Session

namespace SimulateArgs

variable {m : Type → Type} [Monad m]

/-- Compares one core or all of them with the reference machine. -/
def verifySession (args : SimulateArgs) (program : Program) : Session m Unit := do
  let names := match args.arch with
    | some name => [name]
    | none => Arch.all.map Arch.name
  names.forM fun name => do
    let arch ← Session.findArch Arch.unknownText name
    Session.verifyCore arch args.runOptions program args.steps

/-- Prints what has come of a run. -/
def printResult (args : SimulateArgs) (records : List Record) (summary : String)
    (before after : Memory) : Session m Unit := do
  if args.trace then
    Session.print (traceText records)
  Session.print summary
  Session.print (before.difference after)
  if args.dump then
    Session.print after.dump

/-- Runs a program on a core. -/
def coreSession (args : SimulateArgs) (name : String) (program : Program) : Session m Unit := do
  let arch ← Session.findArch Arch.unavailableText name
  let (records, simulator) ← Session.runCore arch.core args.runOptions program args.steps
  let registers := simulator.registers.named.map fun (name, value) => registerLine name value
  args.printResult records (toString simulator.cycles ++ " cycles\n" ++ String.join registers)
    program.dmem simulator.dmem

/-- Runs a program on the reference machine. -/
def machineSession (args : SimulateArgs) (program : Program) : Session m Unit := do
  let (records, machine) ← Session.runMachine program args.steps
  args.printResult records
    (registerLine "pc" machine.pc ++ registerLine "a" machine.areg ++
      registerLine "b" machine.breg)
    program.dmem machine.dmem

/-- What the tool does. -/
def session [MonadFiles m] (args : SimulateArgs) : Session m Unit := do
  let source ← Session.readText args.input
  if let some path := args.log then
    Session.openLog path
  let assembly ← Session.assemble args.verbosity source
  if args.verify then
    args.verifySession assembly.program
  else
    match args.arch with
    | some name => args.coreSession name assembly.program
    | none => args.machineSession assembly.program

end SimulateArgs

/-- How the tool is called. -/
def simulateUsage : String :=
  "usage: h8sim [-a ARCH] [-n STEPS] [--max-cycles CYCLES] [--verify] [--trace] [--dump]\n" ++
    "             [--log FILE] [-v | -q] INPUT\n"

/-- The simulating tool. -/
def simulateTool {m : Type → Type} [Monad m] [MonadFiles m] (arguments : List String) :
    m Outcome :=
  match SimulateArgs.ofArguments? arguments with
  | none => pure (.ofUsageError simulateUsage)
  | some args => args.session.run args.verbosity.limit

end Hex8.Cli

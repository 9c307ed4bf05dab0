import Hex8.Asm.Listing
import Hex8.Cli.Options
import Hex8.Cli.Session
import Hex8.Log.Assembly

set_option relaxedAutoImplicit false
set_option autoImplicit false

/-!
# The assembling tool

`h8as` assembles the text in a file and writes its listing into another one.

## Main definitions

* `Hex8.Cli.verbosityOptions`, `Hex8.Cli.verbosity?` — how many messages are wanted; this choice
  is the same for all tools.
* `Hex8.Cli.AssembleArgs` — the command line of the tool.
* `Hex8.Cli.assembleTool` — the tool.
-/

namespace Hex8.Cli

/-- The options that choose how many messages are wanted. -/
def verbosityOptions : List OptionSpec :=
  [⟨"verbose", some 'v', false⟩, ⟨"quiet", some 'q', false⟩]

/-- How many messages are wanted. One cannot ask for more and for fewer of them at once. -/
def verbosity? (items : List Item) : Option Verbosity :=
  let more := count "verbose" items
  let fewer := count "quiet" items
  if more ≠ 0 && fewer ≠ 0 then none else some (.ofRequests more fewer)

/-- Assembles a text. If all messages are wanted, those of the assembler are among them. -/
def Session.assemble {m : Type → Type} [Monad m] (verbosity : Verbosity) (source : String) :
    Session m Asm.Assembly := do
  if verbosity.showsAssembler then
    Session.say .debug fun () => Asm.assemblerEvents source
  Session.orFail Asm.AssembleError.chain (Asm.assemble source)

/-- The command line of the assembling tool. -/
structure AssembleArgs where
  /-- The file with the text. -/
  input : String
  /-- The file for the listing. -/
  output : Option String
  /-- How many messages are wanted. -/
  verbosity : Verbosity

namespace AssembleArgs

/-- The options of the tool. -/
def options : List OptionSpec :=
  ⟨"output", some 'o', true⟩ :: verbosityOptions

/-- The command line with the given arguments. -/
def ofArguments? (arguments : List String) : Option AssembleArgs := do
  let items ← scan options arguments
  let input ← positional? items
  let output ← value? "output" items
  let verbosity ← verbosity? items
  return { input, output, verbosity }

/-- Where the listing goes: without other instructions next to the text. -/
def outputPath (args : AssembleArgs) : String :=
  args.output.getD (withExtension args.input "h8o")

/-- What the tool does. -/
def session {m : Type → Type} [Monad m] [MonadFiles m] (args : AssembleArgs) :
    Session m Unit := do
  let source ← Session.readText args.input
  let assembly ← Session.assemble args.verbosity source
  Session.writeText args.outputPath assembly.listing
  Session.print ("writing to file `" ++ args.outputPath ++ "`\n")

end AssembleArgs

/-- How the tool is called. -/
def assembleUsage : String :=
  "usage: h8as [-o OUTPUT] [-v | -q] INPUT\n"

/-- The assembling tool. -/
def assembleTool {m : Type → Type} [Monad m] [MonadFiles m] (arguments : List String) :
    m Outcome :=
  match AssembleArgs.ofArguments? arguments with
  | none => pure (.ofUsageError assembleUsage)
  | some args => args.session.run args.verbosity.limit

end Hex8.Cli

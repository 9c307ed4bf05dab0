import Hex8.Cli.Assemble
import Mathlib.Tactic.Lemma

set_option relaxedAutoImplicit false
set_option autoImplicit false

/-!
# How sessions end

A session ends with a value or a failure, whatever has been printed and said before it began. What
it has printed itself, and what has become of the files, can be told part by part: the parts of a
session follow each other until one of them fails. The files may be of any kind.

## Main definitions

* `Hex8.Cli.Surroundings` — what a session finds and leaves behind.
* `Hex8.Cli.Session.Ends` — how a session ends, and what it has printed.

## Main results

* `Hex8.Cli.Session.Ends.bind`, `Hex8.Cli.Session.Ends.bind_error` — a session ends as its parts do.
* `Hex8.Cli.Session.ends_readText`, `Hex8.Cli.Session.ends_writeText`,
  `Hex8.Cli.Session.ends_openLog` — what comes of reading and writing files.
* `Hex8.Cli.Session.Ends.run` — what comes of a tool whose session ends in some way.

## Design

Messages are left open. They never decide about anything else.
-/

namespace Hex8.Cli

/-- What a session finds and leaves behind. -/
structure Surroundings (S : Type) where
  /-- The path of the log file, if there is one. -/
  logFile : Option String
  /-- The files. -/
  files : S

namespace Session

variable {S α β : Type} {before between after : Surroundings S} {printed more : List String}

/-- How a session ends, and what it has printed, whatever has been printed and said in front of
it. -/
def Ends (session : Session (StateM S) α) (before : Surroundings S)
    (result : Except Failure α) (printed : List String) (after : Surroundings S) : Prop :=
  ∀ transcript : Transcript, transcript.logFile = before.logFile → ∃ events,
    session transcript before.files =
      ((result,
        { transcript with
          printed := printed.reverse ++ transcript.printed, events, logFile := after.logFile }),
        after.files)

/-! ## Parts of a session -/

/-- A value is at hand. -/
lemma ends_pure (value : α) (before : Surroundings S) :
    (pure value : Session (StateM S) α).Ends before (.ok value) [] before := by
  rintro transcript log
  refine ⟨transcript.events, ?_⟩
  rw [← log]
  rfl

/-- A session that fails. -/
lemma ends_abort (failure : Failure) (before : Surroundings S) :
    (abort failure : Session (StateM S) α).Ends before (.error failure) [] before := by
  rintro transcript log
  refine ⟨transcript.events, ?_⟩
  rw [← log]
  rfl

/-- What is printed is printed. -/
lemma ends_print (text : String) (before : Surroundings S) :
    (print text : Session (StateM S) Unit).Ends before (.ok ()) [text] before := by
  rintro transcript log
  refine ⟨transcript.events, ?_⟩
  rw [← log]
  rfl

/-- What is said is not printed. -/
lemma ends_say (level : Level) (events : Unit → List Event) (before : Surroundings S) :
    (say level events : Session (StateM S) Unit).Ends before (.ok ()) [] before := by
  rintro transcript log
  rw [← log]
  exact ⟨_, rfl⟩

/-- What is no value ends a session. -/
lemma ends_orAbort {ε : Type} (failure : ε → Failure) (result : Except ε α)
    (before : Surroundings S) :
    (orAbort failure result : Session (StateM S) α).Ends before (result.mapError failure) []
      before := by
  cases result with
  | ok value => exact ends_pure value before
  | error error => exact ends_abort (failure error) before

/-- The second part of a session begins where the first one has ended, unless that was a failure. -/
lemma bind_apply (session : Session (StateM S) α) (rest : α → Session (StateM S) β)
    (transcript : Transcript) (files : S) :
    (session >>= rest) transcript files =
      match session transcript files with
      | ((.ok value, transcript), files) => rest value transcript files
      | ((.error failure, transcript), files) => ((.error failure, transcript), files) := by
  change (session transcript >>= _ : StateM S _) files = _
  simp only [Bind.bind, StateT.bind]
  rcases session transcript files with ⟨⟨_ | _, _⟩, _⟩ <;> rfl

/-- **The parts of a session follow each other.** -/
theorem Ends.bind {session : Session (StateM S) α} {rest : α → Session (StateM S) β} {value : α}
    {result : Except Failure β} (first : session.Ends before (.ok value) printed between)
    (second : (rest value).Ends between result more after) :
    (session >>= rest).Ends before result (printed ++ more) after := by
  intro transcript log
  obtain ⟨events, ended⟩ := first transcript log
  obtain ⟨others, finished⟩ := second
    { transcript with
      printed := printed.reverse ++ transcript.printed, events, logFile := between.logFile } rfl
  refine ⟨others, ?_⟩
  rw [bind_apply, ended, List.reverse_append, List.append_assoc]
  exact finished

/-- **The first part that fails is the last one.** -/
theorem Ends.bind_error {session : Session (StateM S) α} {rest : α → Session (StateM S) β}
    {failure : Failure} (first : session.Ends before (.error failure) printed after) :
    (session >>= rest).Ends before (.error failure) printed after := by
  intro transcript log
  obtain ⟨events, ended⟩ := first transcript log
  exact ⟨events, by rw [bind_apply, ended]⟩

/-- A text is assembled, or it is told why it cannot be, and nothing is printed. -/
lemma ends_assemble (verbosity : Verbosity) (text : String) (before : Surroundings S) :
    (assemble verbosity text : Session (StateM S) Asm.Assembly).Ends before
      ((Asm.assemble text).mapError fun error => .error error.chain) [] before := by
  have outcome := ends_orAbort (fun error => .error error.chain) (Asm.assemble text) before
  rw [assemble]
  split
  · exact (ends_say .debug _ before).bind outcome
  · exact outcome

/-! ## Files -/

variable [FileStore S]

/-- The text in a file, or why it cannot be read. -/
def textIn (files : S) (path : String) : Except FileError String :=
  (FileStore.read files path).bind decodeText

/-- A text that has been written is read again. -/
lemma textIn_of_read {files : S} {path text : String}
    (found : FileStore.read files path = .ok text.toUTF8) : textIn files path = .ok text := by
  have decoded : String.fromUTF8? text.toUTF8 = some text := by
    simp [String.fromUTF8?, String.fromUTF8, text.isValidUTF8]
  rw [textIn, found]
  simp only [Except.bind, decodeText, decoded]

/-- A text is read, and the files stay as they are. -/
lemma ends_readText (path : String) (before : Surroundings S) :
    (readText path : Session (StateM S) String).Ends before
      ((textIn before.files path).mapError fun error =>
        .error ["could not read file `" ++ path ++ "`", error.message]) [] before :=
  fun transcript log => ends_orAbort _ _ before transcript log

/-- A text is written if it can be. What is left behind is up to the files. -/
lemma ends_writeText (path text : String) (before : Surroundings S) :
    (writeText path text : Session (StateM S) Unit).Ends before
      ((FileStore.write before.files path text.toUTF8).1.mapError fun error =>
        .error ["could not write file `" ++ path ++ "`", error.message]) []
      { before with files := (FileStore.write before.files path text.toUTF8).2 } :=
  fun transcript log =>
    ends_orAbort _ _ { before with files := (FileStore.write before.files path text.toUTF8).2 }
      transcript log

/-- The exit code says how a session has ended. -/
def exitCode : Except Failure Unit → UInt8
  | .ok _ => 0
  | .error failure => failure.exitCode

/-- **What comes of a tool** is decided by how its session ends. Without a log file the messages do
not get into any file. -/
theorem Ends.run {session : Session (StateM S) Unit} {files : S} {result : Except Failure Unit}
    (ends : session.Ends { logFile := none, files } result printed after) (limit : Level) :
    let ended := session.run limit files
    ended.1.exitCode = exitCode result ∧ ended.1.stdout = String.join printed ∧
      (after.logFile = none → ended.2 = after.files) := by
  intro ended
  obtain ⟨events, finished⟩ := ends { limit, printed := [], events := [], logFile := none } rfl
  have order : (printed.reverse ++ []).reverse = printed := by simp
  simp only [ended, Session.run, Bind.bind, StateT.bind, finished]
  rcases after.logFile with _ | path
  · rcases result with failure | ⟨⟩
    all_goals exact ⟨rfl, congrArg String.join order, fun _ => rfl⟩
  · -- the messages go into the file, or to the terminal if that fails
    have written : (MonadFiles.writeFile path (fileLog events.reverse).toUTF8 : StateM S _)
        after.files = FileStore.write after.files path (fileLog events.reverse).toUTF8 := rfl
    simp only [StateT.bind, written]
    rcases FileStore.write after.files path (fileLog events.reverse).toUTF8 with ⟨_ | _, files'⟩
    all_goals
      rcases result with failure | ⟨⟩
      all_goals exact ⟨rfl, congrArg String.join order, nofun⟩

end Session
end Hex8.Cli

set_option relaxedAutoImplicit false
set_option autoImplicit false

/-!
# Files

The tools read whole files and write whole files. Where the files are is left open: they may be
those of the system, or they may be a value of any kind that can be read and written.

## Main definitions

* `Hex8.Cli.FileError` — why a file cannot be read or written.
* `Hex8.Cli.MonadFiles` — computations that can read and write files.
* `Hex8.Cli.FileStore` — values that can be read and written as files.
* `Hex8.Cli.withExtension` — a file name with another extension.

## Design

Nothing is asked of reading and writing but that they depend on the files alone. In particular a
file that could not be written may have been lost or cut off.
-/

namespace Hex8.Cli

/-- Why a file cannot be read or written. -/
inductive FileError
  /-- There is no such file. -/
  | notFound
  /-- There is nothing behind the name of a device. -/
  | noDevice
  /-- The file has no end. -/
  | endless
  /-- A file stands where a directory is needed. -/
  | notDirectory
  /-- It is a directory. -/
  | isDirectory
  /-- There is no room for the content. -/
  | noSpace
  /-- A name in the path, or the whole path, is too long. -/
  | nameTooLong
  /-- Links lead to links without an end in sight. -/
  | tooManyLinks
  /-- It is no text. -/
  | notText
  /-- Anything else, in the words of the system. -/
  | other (message : String)
  deriving DecidableEq

namespace FileError

/-- Why a file cannot be read or written, in words. -/
def message : FileError → String
  | notFound => "No such file or directory (os error 2)"
  | noDevice => "No such device or address (os error 6)"
  | endless => "Cannot allocate memory (os error 12)"
  | notDirectory => "Not a directory (os error 20)"
  | isDirectory => "Is a directory (os error 21)"
  | noSpace => "No space left on device (os error 28)"
  | nameTooLong => "File name too long (os error 36)"
  | tooManyLinks => "Too many levels of symbolic links (os error 40)"
  | notText => "stream did not contain valid UTF-8"
  | other message => message

/-- The error for which the system has the given number. -/
def ofNumber? (number : Nat) : Option FileError :=
  match number with
  | 2 => some notFound
  | 6 => some noDevice
  | 12 => some endless
  | 20 => some notDirectory
  | 21 => some isDirectory
  | 28 => some noSpace
  | 36 => some nameTooLong
  | 40 => some tooManyLinks
  | _ => none

end FileError

/-- Computations that can read and write whole files. -/
class MonadFiles (m : Type → Type) where
  /-- The content of a file. -/
  readFile : String → m (Except FileError ByteArray)
  /-- Replaces the content of a file, or makes a new one. -/
  writeFile : String → ByteArray → m (Except FileError Unit)

/-- Values that can be read and written as files. -/
class FileStore (S : Type) where
  /-- The content of the file at the end of a path. -/
  read : S → String → Except FileError ByteArray
  /-- What comes of replacing the content of a file, or of making a new one, and what is left
  behind. -/
  write : S → String → ByteArray → Except FileError Unit × S

/-- Computations whose state is made of files. -/
instance {S : Type} [FileStore S] : MonadFiles (StateM S) where
  readFile path := fun files => (FileStore.read files path, files)
  writeFile path content := fun files => FileStore.write files path content

/-- A file name with the extension replaced or added. A dot at the front of a name does not begin
an extension. -/
def withExtension (path extension : String) : String :=
  let chars := path.toList.reverse
  let nameReversed := chars.takeWhile (· ≠ '/')
  let folder := (chars.dropWhile (· ≠ '/')).reverse
  let stem :=
    match nameReversed.dropWhile (· ≠ '.') with
    | _ :: c :: rest => (c :: rest).reverse
    | _ => nameReversed.reverse
  String.ofList (folder ++ stem) ++ "." ++ extension

end Hex8.Cli

import Uptime.Files.Path

/-!
# Disks

What the service needs of a file system. A disk may be a real one or a value, so its operations
are those of any monad.

## Main definitions

* `FileError`, `FileError.message`: why an operation failed.
* `Disk`: the operations.
* `Disk.makeDirectories`: makes a directory and all that it lies in.
-/

namespace Uptime

/-- Why an operation on files failed. -/
inductive FileError
  /-- There is no such file. -/
  | notFound
  /-- The name is taken. -/
  | taken
  /-- Something on the way is no directory. -/
  | notDirectory
  /-- It is a directory. -/
  | isDirectory
  /-- A name or the path is too long. -/
  | nameTooLong
  /-- A name has a character that no name may have. -/
  | nulInName
  /-- Any other reason. -/
  | other (text : String)
  deriving DecidableEq, Repr

/-- The text of an error. -/
def FileError.message : FileError → String
  | notFound => "No such file or directory (os error 2)"
  | taken => "File exists (os error 17)"
  | notDirectory => "Not a directory (os error 20)"
  | isDirectory => "Is a directory (os error 21)"
  | nameTooLong => "File name too long (os error 36)"
  | nulInName => "file name contained an unexpected NUL byte"
  | other text => text

/-- What a path leads to. -/
inductive FileKind
  /-- A file. -/
  | file
  /-- A directory. -/
  | directory
  /-- Something else. -/
  | other
  deriving DecidableEq, Repr

/-- The operations on files. -/
structure Disk (m : Type → Type) where
  /-- What a path leads to; the error if nothing can be found there. -/
  kind : String → m (Except FileError FileKind)
  /-- The text of a file. -/
  read : String → m (Except FileError String)
  /-- Makes one directory. -/
  makeDirectory : String → m (Except FileError Unit)
  /-- Writes a file. -/
  write : (path text : String) → m (Except FileError Unit)

namespace Disk

variable {m : Type → Type} [Monad m]

/-- Whether a path leads to anything. -/
def isPresent (disk : Disk m) (path : String) : m Bool := do
  match ← disk.kind path with
  | .ok _ => return true
  | .error _ => return false

/-- Whether a path leads to a directory. -/
def isDirectory (disk : Disk m) (path : String) : m Bool := do
  match ← disk.kind path with
  | .ok .directory => return true
  | _ => return false

/-- Makes a directory that may be there already. -/
def ensureDirectory (disk : Disk m) (path : String) : m (Except FileError Unit) := do
  match ← disk.makeDirectory path with
  | .ok () => return .ok ()
  | .error e => return if ← disk.isDirectory path then .ok () else .error e

/-- Makes a directory and all that it lies in; the fuel bounds how deep that is. -/
def makeDirectoriesFrom (disk : Disk m) : (fuel : Nat) → String → m (Except FileError Unit)
  | 0, _ => return .error .notFound
  | fuel + 1, path => do
    if path = "" then return .ok ()
    match ← disk.ensureDirectory path with
    | .error .notFound =>
      match Path.parent? path with
      | none => return .error (.other "failed to create whole tree")
      | some parent =>
        match ← disk.makeDirectoriesFrom fuel parent with
        | .error e => return .error e
        | .ok () => disk.ensureDirectory path
    | result => return result

/-- Makes a directory and all that it lies in. -/
def makeDirectories (disk : Disk m) (path : String) : m (Except FileError Unit) :=
  disk.makeDirectoriesFrom (path.length + 2) path

end Disk

end Uptime

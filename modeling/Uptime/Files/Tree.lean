import Uptime.Files.Disk

/-!
# File trees

A file tree as a value, with the errors of a common file system.

## Main definitions

* `FileTree`: directories and files.
* `FileTree.walk?`: follows a path.
* `FileTree.kind`, `FileTree.read`, `FileTree.makeDirectory`, `FileTree.write`: the operations.
* `FileTree.disk`: the tree as a disk.
-/

namespace Uptime

/-- Directories and files, by the names that lead to them from the root. -/
structure FileTree where
  /-- The directories except the root. -/
  directories : List (List String) := []
  /-- The files and their texts. -/
  files : List (List String × String) := []
  deriving Repr, Inhabited

namespace FileTree

/-- The longest name, in bytes. -/
def maxName : Nat := 255

/-- The longest path as it is written, in bytes. -/
def maxPath : Nat := 4095

/-- What is at a place. -/
def at? (t : FileTree) (place : List String) : Option FileKind :=
  if place = [] ∨ place ∈ t.directories then some .directory
  else if (t.files.lookup place).isSome then some .file
  else none

/-- The place that a name leads to from a place. -/
def enter (t : FileTree) (place : List String) (name : String) :
    Except FileError (List String) :=
  match t.at? place with
  | none => .error .notFound
  | some .file | some .other => .error .notDirectory
  | some .directory =>
    if name = "." then .ok place
    else if name = ".." then .ok place.dropLast
    else if maxName < name.utf8ByteSize then .error .nameTooLong
    else .ok (place ++ [name])

/-- The place that names lead to from a place. -/
def walk (t : FileTree) (place : List String) (names : List String) :
    Except FileError (List String) :=
  names.foldlM t.enter place

/-- The names of a path, in order. -/
def namesOf (path : String) : List String := (path.splitOn "/").filter (· ≠ "")

/-- The names of a path together with the place where it begins. -/
def start (here : List String) (path : String) : Except FileError (List String × List String) :=
  if path.toList.contains '\x00' then .error .nulInName
  else if path = "" then .error .notFound
  else if maxPath < path.utf8ByteSize then .error .nameTooLong
  else if path.toList.head? = some '/' then .ok ([], namesOf path)
  else .ok (here, namesOf path)

/-- Whether a path ends with a slash. -/
def endsWithSlash (path : String) : Bool := path.toList.getLast? = some '/'

/-- What a path leads to. -/
def kind (t : FileTree) (here : List String) (path : String) : Except FileError FileKind := do
  let (place, names) ← start here path
  let place ← t.walk place names
  match t.at? place with
  | none => throw .notFound
  | some .directory => return .directory
  | some kind => if endsWithSlash path then throw .notDirectory else return kind

/-- The text of a file. -/
def read (t : FileTree) (here : List String) (path : String) : Except FileError String := do
  match ← t.kind here path with
  | .directory => throw .isDirectory
  | _ =>
    let (place, names) ← start here path
    match t.files.lookup (← t.walk place names) with
    | some text => return text
    | none => throw .notFound

/-- Where a new entry goes: a place, of which all but the last name must be there. -/
def newPlace (t : FileTree) (here : List String) (path : String) :
    Except FileError (List String) := do
  let (place, names) ← start here path
  let place ← t.walk place names
  match t.at? place.dropLast with
  | none => throw .notFound
  | some .directory => return place
  | some _ => throw .notDirectory

/-- Makes a directory. -/
def makeDirectory (t : FileTree) (here : List String) (path : String) :
    Except FileError FileTree := do
  let place ← t.newPlace here path
  match t.at? place with
  | some _ => throw .taken
  | none => return { t with directories := t.directories ++ [place] }

/-- Whether the last name of a path refers to a directory by its very form. -/
def namesDirectory (path : String) : Bool :=
  endsWithSlash path || (namesOf path).getLast?.any fun name => name = "." || name = ".."

/-- Writes a file. -/
def write (t : FileTree) (here : List String) (path text : String) :
    Except FileError FileTree := do
  let place ← t.newPlace here path
  if namesDirectory path then throw .isDirectory
  match t.at? place with
  | some .directory => throw .isDirectory
  | _ =>
    let others := t.files.filter fun file => file.1 ≠ place
    return { t with files := others ++ [(place, text)] }

/-- A tree as a disk, with a place from which relative paths begin. -/
def disk (here : List String) : Disk (StateM FileTree) where
  kind path := do return (← get).kind here path
  read path := do return (← get).read here path
  makeDirectory path := do
    match (← get).makeDirectory here path with
    | .ok t => set t; return .ok ()
    | .error e => return .error e
  write path text := do
    match (← get).write here path text with
    | .ok t => set t; return .ok ()
    | .error e => return .error e

end FileTree

end Uptime

/-!
# Paths

Paths as texts: names between slashes. A slash or a lone dot at the end of a path is not part
of its last name.

## Main definitions

* `Path.join`: a path below another.
* `Path.trimmed`: a path without slashes and lone dots at its end.
* `Path.fileName?`, `Path.parent?`: the last name and what is before it.
* `Path.extension?`, `Path.withExtension`: the extension of the last name.
-/

namespace Uptime.Path

/-- A path below another. An absolute path stays what it is. -/
def join (base path : String) : String :=
  if path.toList.head? = some '/' then path
  else if base = "" ∨ base.toList.getLast? = some '/' then base ++ path
  else base ++ "/" ++ path

/-- Takes slashes and lone dots off a reversed path. A path that is a lone dot or the root
stays. -/
def trimReversed : List Char → List Char
  | [] => []
  | ['/'] => ['/']
  | '/' :: c :: cs => trimReversed (c :: cs)
  | '.' :: '/' :: cs => trimReversed ('/' :: cs)
  | c :: cs => c :: cs
termination_by cs => cs.length

/-- The path without slashes and lone dots at its end. -/
def trimmed (path : String) : String := String.ofList (trimReversed path.toList.reverse).reverse

/-- The last part of a path: what follows its last slash. -/
def lastPart (path : String) : List Char :=
  ((trimmed path).toList.reverse.takeWhile (· ≠ '/')).reverse

/-- What is before the last part of a path. -/
def beforeLast (path : String) : List Char :=
  ((trimmed path).toList.reverse.dropWhile (· ≠ '/')).reverse

/-- The last name of a path; the root, the empty path and references to directories have
none. -/
def fileName? (path : String) : Option String :=
  match lastPart path with
  | [] => none
  | ['.'] => none
  | ['.', '.'] => none
  | name => some (String.ofList name)

/-- What a path lies in; nothing for the root and the empty path. -/
def parent? (path : String) : Option String :=
  let path := trimmed path
  if path = "" ∨ path = "/" then none else some (trimmed (String.ofList (beforeLast path)))

/-- Splits a name at its last dot. A dot at its beginning does not count. -/
def splitName (name : String) : String × Option String :=
  let reversed := name.toList.reverse
  match reversed.dropWhile (· ≠ '.') with
  | [] => (name, none)
  | ['.'] => (name, none)
  | _ :: stem =>
    (String.ofList stem.reverse, some (String.ofList (reversed.takeWhile (· ≠ '.')).reverse))

/-- The extension of a path. -/
def extension? (path : String) : Option String := (fileName? path).bind fun n => (splitName n).2

/-- The path with an extension in place of the one it has. A path without a last name stays. -/
def withExtension (path extension : String) : String :=
  match fileName? path with
  | none => path
  | some name => String.ofList (beforeLast path) ++ (splitName name).1 ++ "." ++ extension

end Uptime.Path

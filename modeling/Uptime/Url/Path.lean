/-!
# Paths of addresses

A path is a row of segments. The segments `.` and `..` mean the directory and the one above it;
both, and characters that may not stand for themselves, are resolved when a path is read.

## Main definitions

* `UrlPath.encode`: characters as bytes after percent signs.
* `UrlPath.split`: a path, the query and the fragment.
* `UrlPath.append`: a path that starts at a directory.
* `UrlPath.text`: the text of a path.
-/

namespace Uptime.UrlPath

/-- The form of a byte. -/
def encodeByte (b : UInt8) : List Char :=
  let digit (n : Nat) : Char := if n < 10 then Char.ofNat (48 + n) else Char.ofNat (55 + n)
  ['%', digit (b.toNat / 16), digit (b.toNat % 16)]

/-- Characters, with those that satisfy `p`, control characters and all beyond ASCII as
bytes. -/
def encode (p : Char → Bool) (text : List Char) : List Char :=
  text.flatMap fun c =>
    if c.toNat < 0x20 || 0x7E < c.toNat || p c then c.toString.toUTF8.toList.flatMap encodeByte
    else [c]

/-- Whether a character cannot stand for itself in a segment. -/
def isEscapedInSegment (c : Char) : Bool := " \"#<>?\x60\x7b\x7d".toList.contains c

/-- Whether a character cannot stand for itself in a query. -/
def isEscapedInQuery (c : Char) : Bool := " \"#<>'".toList.contains c

/-- A path and the query after it. A fragment is left out. -/
def split (text : List Char) : List Char × Option (List Char) :=
  let text := text.takeWhile (· ≠ '#')
  match text.dropWhile (· ≠ '?') with
  | [] => (text, none)
  | _ :: query => (text.takeWhile (· ≠ '?'), some query)

/-- The pieces of a path between slashes; in some paths a backslash is one too. -/
def pieces (backslash : Bool) : List Char → List (List Char)
  | [] => [[]]
  | c :: cs =>
    if c = '/' || (backslash && c = '\\') then [] :: pieces backslash cs
    else
      match pieces backslash cs with
      | [] => [[c]]
      | piece :: rest => (c :: piece) :: rest

/-- Reads each escaped dot of a piece as a dot. -/
def readDots : List Char → List Char
  | '%' :: '2' :: 'e' :: cs | '%' :: '2' :: 'E' :: cs => '.' :: readDots cs
  | c :: cs => c :: readDots cs
  | [] => []

/-- The segments after pieces that start at a directory. A path that ends in a directory has an
empty last segment. -/
def append (directory : List String) : List (List Char) → List String
  | [] => directory
  | piece :: rest =>
    let ending := if rest = [] then [""] else []
    if readDots piece = ['.', '.'] then append (directory.dropLast ++ ending) rest
    else if readDots piece = ['.'] then append (directory ++ ending) rest
    else append (directory ++ [String.ofList (encode isEscapedInSegment piece)]) rest

/-- The path of a directory, with an empty last segment. -/
def asDirectory (path : List String) : List String :=
  if path.getLast? = some "" then path else path ++ [""]

/-- The text of a path. -/
def text (path : List String) : String := String.join (path.map ("/" ++ ·))

end Uptime.UrlPath

import Uptime.Files.Disk
import Uptime.NameMap
import Uptime.Variables.Line

/-!
# Files of variables

A file of variables sets those that are not set yet, line by line, until a line is not
understood. Open quotes carry a line on over the end of a line of the file. No variable can hold
a NUL: the attempt to set one to such a text is fatal.

## Main definitions

* `Variables.lines`: the lines of a text, with those that belong together joined.
* `Variables.apply`: the variables after a file.
* `Variables.findFile`: the nearest file of variables.
-/

namespace Uptime

/-- The variables of a process. -/
abbrev Variables := NameMap String

namespace Variables

/-- What is open at a place in a line. -/
inductive Opening
  /-- Nothing. -/
  | nothing
  /-- Nothing, and the last character is a blank. -/
  | blank
  /-- An escape outside of quotes. -/
  | escape
  /-- A quote of a kind. -/
  | quote (mark : Char)
  /-- An escape inside a quote of a kind. -/
  | quotedEscape (mark : Char)
  deriving DecidableEq, Repr

/-- What is open after a character that stands outside of quotes. -/
def Opening.ofChar (c : Char) : Opening :=
  if c = '\\' then .escape else if c = '"' ∨ c = '\'' then .quote c else .nothing

/-- What is open after one more character. -/
def Opening.next (c : Char) : Opening → Opening
  | nothing =>
    if Text.isBlank c && c ≠ '\n' && c ≠ '\x0d' then .blank else .ofChar c
  | blank => .ofChar c
  | escape => .nothing
  | quote mark =>
    if c = '\\' then .quotedEscape mark else if c = mark then .nothing else .quote mark
  | quotedEscape mark => .quote mark

/-- Reads a line of the file. The answer is what is open at its end, or the part of the line
before the comment that a single blank announces. -/
def scan (opening : Opening) (before : List Char) : List Char → Opening ⊕ List Char
  | [] => .inl opening
  | c :: cs =>
    if opening = .blank ∧ c = '#' then .inr before else scan (opening.next c) (before ++ [c]) cs

/-- Splits a text after its line feeds. -/
def physicalLines : List Char → List (List Char)
  | [] => []
  | c :: cs =>
    if c = '\n' then [c] :: physicalLines cs
    else
      match physicalLines cs with
      | [] => [[c]]
      | line :: lines => (c :: line) :: lines

/-- The lines from what is open and what has been read of the line. A text that ends while
something is open ends in nothing. -/
def linesFrom (opening : Opening) (read : List Char) :
    List (List Char) → List (Option (List Char))
  | [] => if opening = .nothing then [] else [none]
  | line :: rest =>
    if (read ++ line).dropWhile Text.isBlank |>.head? |>.any (· = '#') then
      some [] :: linesFrom .nothing [] rest
    else
      match scan opening [] line with
      | .inr before => some (read ++ before) :: linesFrom .nothing [] rest
      | .inl .nothing => some (read ++ line) :: linesFrom .nothing [] rest
      | .inl opening => linesFrom opening (read ++ line) rest

/-- The lines of a text, with those that belong together joined. -/
def lines (text : String) : List (Option (List Char)) :=
  let text := match text.toList with
    | '\uFEFF' :: text => text
    | text => text
  linesFrom .nothing [] (physicalLines text)

/-- A variable that cannot be set, because its value has a NUL. -/
structure NulInValue where
  /-- The name of the variable. -/
  name : String
  deriving DecidableEq, Repr

/-- Sets a variable that is not set. -/
def define (v : Variables) (name value : String) : Except NulInValue Variables :=
  if v.contains name then .ok v
  else if value.toList.contains '\x00' then .error ⟨name⟩
  else .ok (v.insert name value)

/-- The variables after lines. -/
def applyLines (v : Variables) : List (Option (List Char)) → Except NulInValue Variables
  | [] | none :: _ => .ok v
  | some line :: rest =>
    match Content.ofLine (fun name => (v.find? name).getD "") line with
    | .nothing => applyLines v rest
    | .assignment name value =>
      match v.define name value with
      | .ok v => applyLines v rest
      | .error e => .error e
    | .malformed => .ok v

/-- The variables after a file. -/
def apply (v : Variables) (text : String) : Except NulInValue Variables :=
  applyLines v (lines text)

variable {m : Type → Type} [Monad m]

/-- The nearest file of variables in a directory and those that it lies in; the fuel bounds
how deep that is. -/
def findFileFrom (disk : Disk m) : (fuel : Nat) → String → m (Option String)
  | 0, _ => return none
  | fuel + 1, directory => do
    let candidate := Path.join directory ".env"
    let goOn : m (Option String) :=
      match Path.parent? directory with
      | none => return none
      | some parent => findFileFrom disk fuel parent
    match ← disk.kind candidate with
    | .ok .file => return some candidate
    | .ok _ => goOn
    | .error .notFound => goOn
    | .error _ => return none

/-- The nearest file of variables. -/
def findFile (disk : Disk m) (directory : String) : m (Option String) :=
  findFileFrom disk (directory.length + 1) directory

/-- The variables after the nearest file of variables, if there is one. -/
def withNearestFile (v : Variables) (disk : Disk m) (directory : String) :
    m (Except NulInValue Variables) := do
  match ← findFile disk directory with
  | none => return .ok v
  | some path =>
    match ← disk.read path with
    | .ok text => return v.apply text
    | .error _ => return .ok v

end Variables

end Uptime

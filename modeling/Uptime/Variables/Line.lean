import Uptime.Text.Alphanumeric
import Uptime.Text.Blank

/-!
# Assignments of variables

A line of a file of variables sets a variable to a value. In a value, quotes keep blanks, a
backslash escapes and `$NAME` stands for the value of another variable.

## Main definitions

* `Variables.value?`: the value that a text stands for.
* `Variables.Content`, `Variables.Content.ofLine`: what a line says.
-/

namespace Uptime.Variables

/-- How the next character of a value is to be taken. `quoted` tells whether double quotes are
open. -/
inductive ValueMode
  /-- As it is. -/
  | plain (quoted : Bool)
  /-- After a backslash. -/
  | escaped (quoted : Bool)
  /-- Inside single quotes, where nothing has a meaning. -/
  | literal
  /-- In a name after a dollar sign, which has been read so far. -/
  | name (quoted : Bool) (read : List Char)
  /-- In a name between braces, which has been read so far. -/
  | bracedName (quoted : Bool) (read : List Char)
  /-- After the blank that ends a value. -/
  | ended
  deriving DecidableEq, Repr

/-- What a character does to a value. -/
inductive ValueStep
  /-- It adds characters, and reading goes on in a mode. -/
  | next (added : List Char) (mode : ValueMode)
  /-- It begins a comment. -/
  | finish
  /-- It may not stand here. -/
  | fail
  deriving DecidableEq, Repr

/-- What a plain character does. -/
def plainStep (quoted : Bool) (c : Char) : ValueStep :=
  if c = '$' then .next [] (.name quoted [])
  else if c = '\\' then .next [] (.escaped quoted)
  else if c = '"' then .next [] (.plain !quoted)
  else if quoted then .next [c] (.plain true)
  else if c = '\'' then .next [] .literal
  else if c = ' ' ∨ c = '\t' then .next [] .ended
  else .next [c] (.plain false)

/-- What a character does in a name after a dollar sign. Whatever ends the name stands for
itself, quotes included. -/
def nameStep (lookup : List Char → List Char) (quoted : Bool) (read : List Char) (c : Char) :
    ValueStep :=
  if Text.isAlphanumeric c then .next [] (.name quoted (read ++ [c]))
  else if c = '\x7b' ∧ read = [] then .next [] (.bracedName quoted [])
  else if c = '$' then .next (lookup read) (.name quoted [])
  else .next (lookup read ++ [c]) (.plain quoted)

/-- What a character does in a mode. -/
def ValueMode.step (lookup : List Char → List Char) (c : Char) : ValueMode → ValueStep
  | plain quoted => plainStep quoted c
  | escaped quoted =>
    if c ∈ ['\\', '\'', '"', '$', ' '] then .next [c] (.plain quoted)
    else if c = 'n' then .next ['\n'] (.plain quoted)
    else .fail
  | literal => if c = '\'' then .next [] (.plain false) else .next [c] .literal
  | name quoted read => nameStep lookup quoted read c
  | bracedName quoted read =>
    if c = '\x7d' then .next (lookup read) (.plain quoted)
    else .next [] (.bracedName quoted (read ++ [c]))
  | ended => if c = ' ' ∨ c = '\t' then .next [] .ended else if c = '#' then .finish else .fail

/-- What the end of the text adds in a mode; it may not come where something is open. -/
def ValueMode.atEnd? (lookup : List Char → List Char) : ValueMode → Option (List Char)
  | plain quoted | escaped quoted => if quoted then none else some []
  | name quoted read => if quoted then none else some (lookup read)
  | ended => some []
  | literal | bracedName _ _ => none

/-- The value that a text stands for from a mode on. -/
def valueFrom? (lookup : List Char → List Char) : ValueMode → List Char → Option (List Char)
  | mode, [] => mode.atEnd? lookup
  | mode, c :: cs =>
    match mode.step lookup c with
    | .next added mode => (valueFrom? lookup mode cs).map (added ++ ·)
    | .finish => some []
    | .fail => none

/-- The value that a text stands for; `lookup` gives the values of other variables. -/
def value? (lookup : String → String) (text : List Char) : Option String :=
  (valueFrom? (fun name => (lookup (String.ofList name)).toList) (.plain false) text).map
    String.ofList

/-- What a line says. -/
inductive Content
  /-- Nothing. -/
  | nothing
  /-- The value of a variable. -/
  | assignment (name value : String)
  /-- Something that is not understood. -/
  | malformed
  deriving DecidableEq, Repr

/-- The name at the beginning of a text, and what follows it. -/
def name? : List Char → Option (String × List Char)
  | [] => none
  | c :: cs =>
    if c.isAlpha || c = '_' then
      let inName (c : Char) : Bool := c.isAlphanum || c = '_' || c = '.'
      some (String.ofList (c :: cs.takeWhile inName), cs.dropWhile inName)
    else none

/-- What follows the equals sign at the beginning of a text, less blanks. -/
def afterEquals? : List Char → Option (List Char)
  | '=' :: cs => some (cs.dropWhile Text.isBlank)
  | _ => none

/-- The name that a line assigns to and the text of the value. The word `export` before a name
says nothing, but it is a name if the equals sign follows it. -/
def parts? (line : List Char) : Option (String × List Char) := do
  let (name, rest) ← name? line
  let rest := rest.dropWhile Text.isBlank
  match afterEquals? rest with
  | some text => some (name, text)
  | none =>
    if name = "export" then
      let (name, rest) ← name? rest
      let text ← afterEquals? (rest.dropWhile Text.isBlank)
      some (name, text)
    else none

/-- Whether nothing but a comment is left. -/
def saysNothing (text : List Char) : Bool := text.head?.all (· = '#')

/-- What a line says. -/
def Content.ofLine (lookup : String → String) (line : List Char) : Content :=
  let line := Text.trimChars Text.isBlank line
  if saysNothing line then .nothing
  else
    match parts? line with
    | none => .malformed
    | some (name, text) =>
      if saysNothing text then .assignment name ""
      else
        match value? lookup text with
        | some value => .assignment name value
        | none => .malformed

end Uptime.Variables

import Uptime.Toml.Number
import Uptime.Toml.Text
import Uptime.Toml.Tree

/-!
# Reading TOML

The reader of TOML documents, version 1.0.

## Main definitions

* `Toml.readKey`: a key, perhaps with dots.
* `Toml.readValue`: a value.
* `Toml.Statement`, `Toml.readStatement`: a line of a document.
* `Toml.ofText?`: the table that a document stands for.
-/

namespace Uptime.Toml

/-! ### Keys -/

/-- The characters of a key without quotes. -/
def isBare (c : Char) : Bool := c.isAlphanum || c = '-' || c = '_'

/-- Reads a part of a key. -/
def readPart (cs : List Char) : Option (String × List Char) :=
  match cs with
  | '"' :: _ => readShortText cs
  | '\'' :: _ => readShortText cs
  | _ =>
    match cs.span isBare with
    | ([], _) => none
    | (part, cs) => some (String.ofList part, cs)

/-- Reads the parts of a key, with the blanks around them. -/
def readParts : (fuel : Nat) → List Char → Option (List String × List Char)
  | 0, _ => none
  | fuel + 1, cs => do
    let (part, cs) ← readPart (skipBlanks cs)
    match skipBlanks cs with
    | '.' :: cs => do
      let (parts, cs) ← readParts fuel cs
      return (part :: parts, cs)
    | cs => return ([part], cs)

/-- No key may have as many parts, and no value may be nested as deeply. -/
def depthLimit : Nat := 80

/-- A key: the path to a table, and the last part. -/
structure Key where
  /-- The parts that lead to the table. -/
  path : List String
  /-- The part that names a member of it. -/
  last : String

/-- Reads a key. -/
def readKey (cs : List Char) : Option (Key × List Char) := do
  let (parts, cs) ← readParts (cs.length + 1) cs
  if depthLimit ≤ parts.length then none
  else return (⟨parts.dropLast, ← parts.getLast?⟩, cs)

/-! ### Values -/

/-- The table of the pairs between braces. -/
def inlineTable? (pairs : List (Key × Toml)) : Option Toml := do
  let add (ms : Tree.Members) (pair : Key × Toml) : Option Tree.Members :=
    Tree.assign pair.1.path pair.1.last pair.2 .header ms
  let members ← pairs.foldlM add []
  return .table (Tree.toMembers members)

/-- Reads a fixed word. -/
def readWord (word : String) (value : Toml) (cs : List Char) : Option (Toml × List Char) :=
  if word.toList.isPrefixOf cs then some (value, cs.drop word.length) else none

mutual

/-- Reads a value inside as many others as `depth` tells. -/
def readValue : (fuel depth : Nat) → List Char → Option (Toml × List Char)
  | 0, _, _ => none
  | fuel + 1, depth, cs =>
    match cs with
    | '"' :: _ => (readText cs).map fun (text, cs) => (.string text, cs)
    | '\'' :: _ => (readText cs).map fun (text, cs) => (.string text, cs)
    | '[' :: cs =>
      if depthLimit ≤ depth + 1 then none
      else readItems fuel (depth + 1) [] (skipTrivia cs.length cs)
    | '\x7b' :: cs =>
      if depthLimit ≤ depth + 1 then none
      else
        match skipBlanks cs with
        | '\x7d' :: cs => some (.table [], cs)
        | cs => readPairs fuel (depth + 1) [] cs
    | 't' :: _ => readWord "true" (.bool true) cs
    | 'f' :: _ => readWord "false" (.bool false) cs
    | _ => readNumeric cs

/-- Reads the items of an array up to its bracket. The items found come in `items`, the last
one first. -/
def readItems : (fuel depth : Nat) → List Toml → List Char → Option (Toml × List Char)
  | 0, _, _, _ => none
  | fuel + 1, depth, items, cs =>
    match cs with
    | ']' :: cs => some (.array items.reverse, cs)
    | cs => do
      let (item, cs) ← readValue fuel depth cs
      match skipTrivia cs.length cs with
      | ',' :: cs => readItems fuel depth (item :: items) (skipTrivia cs.length cs)
      | ']' :: cs => return (.array (item :: items).reverse, cs)
      | _ => none

/-- Reads the pairs of a table on one line up to its brace. The pairs found come in `pairs`,
the last one first. -/
def readPairs : (fuel depth : Nat) → List (Key × Toml) → List Char → Option (Toml × List Char)
  | 0, _, _, _ => none
  | fuel + 1, depth, pairs, cs => do
    let (key, cs) ← readKey cs
    let cs ← readChar '=' cs
    let (value, cs) ← readValue fuel depth (skipBlanks cs)
    match skipBlanks cs with
    | ',' :: cs => readPairs fuel depth ((key, value) :: pairs) cs
    | '\x7d' :: cs => return (← inlineTable? ((key, value) :: pairs).reverse, cs)
    | _ => none

end

/-! ### Documents -/

/-- A line of a document. -/
inductive Statement
  /-- Nothing but blanks and perhaps a comment. -/
  | blank
  /-- The header of a table. -/
  | tableHeader (key : Key)
  /-- The header of an item of an array of tables. -/
  | itemHeader (key : Key)
  /-- A key and its value. -/
  | pair (key : Key) (value : Toml)

/-- Reads what remains of a statement after its content. -/
def ending (s : Statement) (cs : List Char) : Option (Statement × List Char) := do
  return (s, ← readLineEnd? cs)

/-- Reads a statement. -/
def readStatement (cs : List Char) : Option (Statement × List Char) :=
  match skipBlanks cs with
  | [] => some (.blank, [])
  | '#' :: cs => ending .blank ('#' :: cs)
  | '\n' :: cs => some (.blank, cs)
  | '\r' :: '\n' :: cs => some (.blank, cs)
  | '[' :: '[' :: cs => do
    let (key, cs) ← readKey cs
    ending (.itemHeader key) (← readChar ']' (← readChar ']' cs))
  | '[' :: cs => do
    let (key, cs) ← readKey cs
    ending (.tableHeader key) (← readChar ']' cs)
  | cs => do
    let (key, cs) ← readKey cs
    let cs ← readChar '=' cs
    let (value, cs) ← readValue (cs.length + 1) 0 (skipBlanks cs)
    ending (.pair key value) cs

/-- A document so far: its members, and the path of the table that pairs go to. -/
structure Document where
  /-- The members of the document. -/
  members : Tree.Members := []
  /-- The table that was opened last. -/
  current : List String := []

/-- Takes a statement. -/
def Document.take (d : Document) : Statement → Option Document
  | .blank => some d
  | .tableHeader key => do
    return ⟨← Tree.openTable key.path key.last d.members, key.path ++ [key.last]⟩
  | .itemHeader key => do
    return ⟨← Tree.openItem key.path key.last d.members, key.path ++ [key.last]⟩
  | .pair key value => do
    let members ←
      Tree.alter false (Tree.assign key.path key.last value) d.current .header d.members
    return { d with members }

/-- Reads the statements of a document. -/
def readDocument (d : Document) : (fuel : Nat) → List Char → Option Document
  | _, [] => some d
  | 0, _ => none
  | fuel + 1, cs => do
    let (statement, cs) ← readStatement cs
    readDocument (← d.take statement) fuel cs

/-- The table that a document stands for. A byte order mark at its beginning is ignored. -/
def ofText? (text : String) : Option Toml :=
  let cs :=
    match text.toList with
    | '\ufeff' :: cs => cs
    | cs => cs
  (readDocument {} cs.length cs).map fun d => .table (Tree.toMembers d.members)

end Uptime.Toml

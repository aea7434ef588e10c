import Uptime.Toml.Value

/-!
# Building tables

A document fills its tables statement by statement, and each table remembers how it came about:
that decides which later statements may still touch it.

## Main definitions

* `Toml.Origin`: how a table came about.
* `Toml.Tree`: a value in the making.
* `Toml.Tree.alter`: changes the table at the end of a path.
* `Toml.Tree.assign`, `Toml.Tree.openTable`, `Toml.Tree.openItem`: the statements.
* `Toml.Tree.toValue`: the finished value.
-/

namespace Uptime.Toml

/-- How a table came about. -/
inductive Origin
  /-- It has a header of its own, or is the whole document. -/
  | header
  /-- Some header names a table inside it. -/
  | innerHeader
  /-- A dotted key leads through it. -/
  | dottedKey
  deriving DecidableEq, Repr

/-- A value in the making. -/
inductive Tree
  /-- A value that is complete. -/
  | leaf (value : Toml)
  /-- A table. -/
  | table (origin : Origin) (members : List (String × Tree))
  /-- An array of tables, each with a header. -/
  | tables (items : List (List (String × Tree)))
  deriving Inhabited

namespace Tree

/-- The members of a table in the making. -/
abbrev Members := List (String × Tree)

/-- Puts a member in the place of the one with the same key, or behind all others. -/
def put (key : String) (t : Tree) : Members → Members
  | [] => [(key, t)]
  | entry :: ms => if entry.1 = key then (key, t) :: ms else entry :: put key t ms

/-- Changes the table at the end of a path. Tables that are missing on the way are made; on the
way through an array of tables the last one counts. A dotted key must not lead through a table
that has a header. -/
def alter (dotted : Bool) (change : Origin → Members → Option Members) :
    List String → Origin → Members → Option Members
  | [], origin, ms => change origin ms
  | key :: path, _, ms =>
    match ms.lookup key with
    | none => do
      let made := if dotted then Origin.dottedKey else .innerHeader
      let inner ← alter dotted change path made []
      return put key (.table made inner) ms
    | some (.leaf _) => none
    | some (.table origin inner) =>
      if dotted ∧ origin = .header then none
      else do
        let inner ← alter dotted change path origin inner
        return put key (.table origin inner) ms
    | some (.tables items) => do
      let inner ← alter dotted change path .header (← items.getLast?)
      return put key (.tables (items.dropLast ++ [inner])) ms

/-- The change that gives a key a value. A dotted key adds only to tables that dotted keys have
made, and no key is given twice. -/
def addKey (dotted : Bool) (key : String) (value : Toml) (origin : Origin) (ms : Members) :
    Option Members :=
  if dotted ∧ origin ≠ .dottedKey then none
  else
    match ms.lookup key with
    | none => some (put key (.leaf value) ms)
    | some _ => none

/-- Gives the key at the end of a path a value, in a table. -/
def assign (path : List String) (key : String) (value : Toml) (origin : Origin) (ms : Members) :
    Option Members :=
  alter true (addKey (path ≠ []) key value) path origin ms

/-- The change that opens a table. A table may be opened once, and not at all if dotted keys
have made it. -/
def openKey (key : String) (ms : Members) : Option Members :=
  match ms.lookup key with
  | none => some (put key (.table .header []) ms)
  | some (.table .innerHeader inner) => some (put key (.table .header inner) ms)
  | some _ => none

/-- The change that opens a further item of an array of tables. -/
def openItemKey (key : String) (ms : Members) : Option Members :=
  match ms.lookup key with
  | none => some (put key (.tables [[]]) ms)
  | some (.tables items) => some (put key (.tables (items ++ [[]])) ms)
  | some _ => none

/-- Opens the table with a path. -/
def openTable (path : List String) (key : String) (document : Members) : Option Members :=
  alter false (fun _ => openKey key) path .header document

/-- Opens a further item of the array of tables with a path. -/
def openItem (path : List String) (key : String) (document : Members) : Option Members :=
  alter false (fun _ => openItemKey key) path .header document

mutual

/-- The finished value. -/
def toValue : Tree → Toml
  | leaf value => value
  | table _ members => .table (toMembers members)
  | tables items => .array (toItems items)

/-- The finished members of a table. -/
def toMembers : List (String × Tree) → List (String × Toml)
  | [] => []
  | (key, t) :: ms => (key, toValue t) :: toMembers ms

/-- The finished items of an array of tables. -/
def toItems : List (List (String × Tree)) → List Toml
  | [] => []
  | ms :: items => .table (toMembers ms) :: toItems items

end

end Tree

end Uptime.Toml

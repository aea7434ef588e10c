import Uptime.History.StoredText
import Uptime.NameOrder
import Uptime.Target.Basic

/-!
# The catalog of targets

The table of target definitions, with one entry for each name. A deleted target keeps its
entry, which is only switched off.

## Main definitions

* `Catalog`: the table.
* `Catalog.upsert`: writes a definition and switches it on.
* `Catalog.disable`: switches a definition off.
* `Catalog.list`: the definitions that are switched on, in the order of the stored names.
* `Catalog.size`: the number of names that were ever written.
-/

namespace Uptime

/-- The stored definitions. -/
structure Catalog where
  /-- The entries, in the order in which their names were first written. -/
  entries : List Definition := []
  deriving DecidableEq, Repr, Inhabited

namespace Catalog

/-- Writes an entry over the one of the same name, or behind all others. -/
def put (d : Definition) : List Definition → List Definition
  | [] => [d]
  | e :: es => if e.name = d.name then d :: es else e :: put d es

/-- Writes a definition and switches it on. -/
def upsert (c : Catalog) (d : Definition) : Catalog := ⟨put { d with enabled := true } c.entries⟩

/-- Switches the definition of a name off, if there is one. -/
def disable (c : Catalog) (name : String) : Catalog :=
  ⟨c.entries.map fun e => if e.name = name then { e with enabled := false } else e⟩

/-- The definition that an entry is read back as. -/
def readBack (e : Definition) : Definition :=
  { e with name := StoredText.read e.name, address := StoredText.read e.address }

/-- The definitions that are switched on, in the order of the stored names. -/
def list (c : Catalog) : List Definition :=
  (sortByName Definition.name (c.entries.filter Definition.enabled)).map readBack

/-- The number of entries, switched on or off. -/
def size (c : Catalog) : Nat := c.entries.length

@[simp] theorem size_disable (c : Catalog) (name : String) : (c.disable name).size = c.size := by
  simp [disable, size]

end Catalog

end Uptime

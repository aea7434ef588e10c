import Uptime.History.Catalog
import Uptime.History.CheckLog

/-!
# The store

The durable state of the service: the catalog of targets and the check log. Calls of the
store may fail; a call that fails changes nothing.

## Main definitions

* `Store`: catalog and check log.
* `StoreFailure`: why a call failed.
* `Store.seed`: writes the configured targets into an empty catalog.
-/

namespace Uptime

/-- The durable state of the service. -/
structure Store where
  /-- The catalog of targets. -/
  catalog : Catalog := {}
  /-- The check log. -/
  log : CheckLog := {}
  deriving DecidableEq, Repr, Inhabited

/-- Why a call of the store failed: the error and the errors behind it. -/
structure StoreFailure where
  /-- The errors, the outermost first. -/
  causes : List String
  deriving DecidableEq, Repr, Inhabited

/-- The text of a failure. -/
def StoreFailure.message (f : StoreFailure) : String := ": ".intercalate f.causes

namespace Store

/-- Records a result. -/
def append (s : Store) (r : CheckResult) : Store := { s with log := s.log.append r }

/-- Writes a definition. -/
def upsert (s : Store) (d : Definition) : Store := { s with catalog := s.catalog.upsert d }

/-- Switches a definition off. -/
def disable (s : Store) (name : String) : Store := { s with catalog := s.catalog.disable name }

/-- Drops the records before a time. -/
def prune (s : Store) (cutoff : Instant) : Store := { s with log := s.log.prune cutoff }

/-- Writes definitions one after the other. -/
def upsertAll (s : Store) (ds : List Definition) : Store := ds.foldl upsert s

/-- Writes the configured targets, unless the catalog has an entry already, and gives their
number. The call with the number `failsAt` fails, where the first is that for the size of the
catalog and one for each target follows; what was written before stays. -/
def seed (s : Store) (ds : List Definition) (failsAt : Option Nat) : Option Nat × Store :=
  if ds = [] then (some 0, s)
  else
    match failsAt with
    | some 0 => (none, s)
    | some (k + 1) =>
      if 0 < s.catalog.size then (some 0, s)
      else if k < ds.length then (none, s.upsertAll (ds.take k))
      else (some ds.length, s.upsertAll ds)
    | none => if 0 < s.catalog.size then (some 0, s) else (some ds.length, s.upsertAll ds)

@[simp] theorem catalog_append (s : Store) (r : CheckResult) :
    (s.append r).catalog = s.catalog := rfl

@[simp] theorem catalog_prune (s : Store) (cutoff : Instant) :
    (s.prune cutoff).catalog = s.catalog := rfl

@[simp] theorem log_upsert (s : Store) (d : Definition) : (s.upsert d).log = s.log := rfl

@[simp] theorem log_disable (s : Store) (name : String) : (s.disable name).log = s.log := rfl

end Store

end Uptime

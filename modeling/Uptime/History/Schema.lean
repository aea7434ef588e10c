import Uptime.History.Store

/-!
# The schema

A database file may hold any part of the tables of the store. Migration brings it to the
present version, statement by statement. Each statement takes effect at once or not at all,
and a migration that is interrupted can be started again.

## Main definitions

* `Database`: the parts that a file holds.
* `Database.version`: its version, as it is read.
* `Database.Admits`, `Database.execute`: whether a statement can be carried out, and its effect.
* `Database.migrate`: a run of the migration that may fail at one of its statements.
* `Database.store?`: the store in a file that holds all parts.
-/

namespace Uptime

/-- The present version of the schema. -/
def schemaVersion : Int := 1

/-- The parts of a database file. -/
structure Database where
  /-- The recorded versions, if there is a table for them. -/
  versions : Option (List Int) := none
  /-- The check log, if there is a table for it. -/
  log : Option CheckLog := none
  /-- Whether the check log has its index by target and time. -/
  indexed : Bool := false
  /-- The catalog, if there is a table for it. -/
  catalog : Option Catalog := none
  deriving DecidableEq, Repr, Inhabited

namespace Database

/-- A statement of the migration. -/
inductive Statement
  /-- Makes the table of versions, if it is missing. -/
  | createVersions
  /-- Reads the greatest recorded version. -/
  | readVersion
  /-- Makes the check log, if it is missing. -/
  | createLog
  /-- Makes the index of the check log, if it is missing. -/
  | createIndex
  /-- Makes the catalog, if it is missing. -/
  | createCatalog
  /-- Records a version. -/
  | recordVersion (version : Int)
  deriving DecidableEq, Repr

/-- The greatest recorded version. -/
def greatest? (db : Database) : Option Int := (db.versions.getD []).max?

/-- The version as it is read: of the greatest that is recorded the lowest 32 bits, one of them for
the sign, and zero if there is none. -/
def version (db : Database) : Int := (db.greatest?.getD 0).bmod 4294967296

/-- A statement can be carried out: no version is recorded a second time. -/
def Admits (db : Database) : Statement → Prop
  | .recordVersion v => v ∉ db.versions.getD []
  | _ => True

instance (db : Database) : DecidablePred db.Admits
  | .recordVersion _ => inferInstanceAs (Decidable (¬ _))
  | .createVersions | .readVersion | .createLog | .createIndex | .createCatalog => .isTrue trivial

/-- The effect of a statement. -/
def execute (db : Database) : Statement → Database
  | .createVersions => { db with versions := some (db.versions.getD []) }
  | .readVersion => db
  | .createLog => { db with log := some (db.log.getD {}) }
  | .createIndex => { db with indexed := true }
  | .createCatalog => { db with catalog := some (db.catalog.getD {}) }
  | .recordVersion v => { db with versions := db.versions.map (· ++ [v]) }

/-- Every run begins with these statements. -/
def preamble : List Statement := [.createVersions, .readVersion]

/-- The statements that lead to the first version. -/
def firstVersion : List Statement :=
  [.createLog, .createIndex, .createCatalog, .recordVersion 1]

/-- The statements of a run on a database. -/
def plan (db : Database) : List Statement :=
  if schemaVersion ≤ db.version then preamble else preamble ++ firstVersion

/-- Carries out statements one after the other, up to the one with the number `failsAt` or one
that cannot be carried out. Tells whether these are all. -/
def carryOut (db : Database) : (ss : List Statement) → (failsAt : Option Nat) → Bool × Database
  | [], _ => (true, db)
  | s :: ss, failsAt =>
    if failsAt = some 0 ∨ ¬ db.Admits s then (false, db)
    else (db.execute s).carryOut ss (failsAt.map (· - 1))

/-- A run of the migration, in which the statement with the number `failsAt` fails. Tells
whether it succeeded. -/
def migrate (db : Database) (failsAt : Option Nat) : Bool × Database :=
  db.carryOut db.plan failsAt

/-- The store in a database that has both tables. -/
def store? (db : Database) : Option Store := do
  return ⟨← db.catalog, ← db.log⟩

/-- The database with another state of its store. -/
def withStore (db : Database) (s : Store) : Database :=
  { db with catalog := some s.catalog, log := some s.log }

end Database

end Uptime

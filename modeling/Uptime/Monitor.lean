import Uptime.History.Store
import Uptime.Registry
import Uptime.Target.Entry

/-!
# The monitor

The monitor ties the registry of watched targets to the store. The catalog decides what is
watched; the registry follows it by being synchronised, and what is learnt about the targets
goes into the check log. Every call of the store may fail.

## Main definitions

* `Monitor`: registry and store.
* `Monitor.sync`: brings the registry up to date.
* `Monitor.settle`: takes over the result of a probe.
* `Monitor.upsert`, `Monitor.delete`: change the catalog.
* `LogQuery`, `Monitor.logs`: the latest rows of a watched target.
-/

namespace Uptime

/-- The watched targets and the durable state behind them. -/
structure Monitor where
  /-- The targets that are being watched. -/
  registry : Registry := {}
  /-- The durable state. -/
  store : Store := {}
  deriving DecidableEq, Repr, Inhabited

/-- Whether a writing call of the store succeeds. -/
abbrev Writing := Except StoreFailure Unit

/-- Why a change of the catalog is refused. -/
inductive ChangeError
  /-- The entry is not well-formed. -/
  | entry (error : EntryError)
  /-- The store did not take it. -/
  | store (failure : StoreFailure)
  deriving DecidableEq, Repr

namespace ChangeError

/-- The text of an error. -/
def message : ChangeError → String
  | entry error => error.message
  | store failure => "target store error: " ++ failure.message

/-- Whether the entry itself is at fault. -/
def isEntryError : ChangeError → Bool
  | entry _ => true
  | store _ => false

end ChangeError

/-- What the result of a probe leads to. -/
structure Settlement where
  /-- The result that is to be recorded; nothing if the probe has become irrelevant. -/
  recording : Option CheckResult := none
  /-- The event that it gives rise to. -/
  event : Option Event := none
  deriving DecidableEq, Repr

namespace Monitor

/-! ### Synchronisation -/

/-- The definitions that the store lists, if it can. -/
def listing (m : Monitor) (succeeds : Bool) : Option (List Definition) :=
  if succeeds then some m.store.catalog.list else none

/-- Takes over a listing. Without one the registry stays as it is. -/
def adopt (m : Monitor) : Option (List Definition) → Monitor
  | none => m
  | some definitions => { m with registry := m.registry.replace definitions }

/-- Brings the registry up to date with the catalog. -/
def sync (m : Monitor) (listingSucceeds : Bool) : Monitor := m.adopt (m.listing listingSucceeds)

/-! ### Results of probes -/

/-- Takes over the result of a probe: first in the registry, then in the check log. Whether it
could be recorded changes nothing else. -/
def settle (m : Monitor) (id : Identity) (up : Bool) (now : Instant)
    (recordingSucceeds : Bool) : Settlement × Monitor :=
  match m.registry.apply id up now with
  | (registry, none) => ({}, { m with registry })
  | (registry, some transition) =>
    let result : CheckResult := ⟨id, up, transition.reason, now⟩
    let store := if recordingSucceeds then m.store.append result else m.store
    (⟨some result, transition.event⟩, { registry, store })

/-! ### Changes of the catalog -/

/-- Writes a target into the catalog and synchronises. -/
def upsert (m : Monitor) (name address : String) (port : Int) (writing : Writing)
    (listingSucceeds : Bool) : Except ChangeError Unit × Monitor :=
  match Definition.ofEntry name address port with
  | .error e => (.error (.entry e), m)
  | .ok definition =>
    match writing with
    | .error failure => (.error (.store failure), m)
    | .ok () => (.ok (), { m with store := m.store.upsert definition }.sync listingSucceeds)

/-- Switches a target off in the catalog and synchronises. -/
def delete (m : Monitor) (name : String) (writing : Writing) (listingSucceeds : Bool) :
    Except ChangeError Unit × Monitor :=
  match checkName name with
  | .error e => (.error (.entry e), m)
  | .ok name =>
    match writing with
    | .error failure => (.error (.store failure), m)
    | .ok () => (.ok (), { m with store := m.store.disable name }.sync listingSucceeds)

end Monitor

/-! ### Reading the check log -/

/-- A question to the check log. -/
structure LogQuery where
  /-- The name of the target. -/
  target : String
  /-- How many days back the rows may lie. -/
  days : Nat
  /-- How many rows there may be. -/
  limit : Nat
  deriving DecidableEq, Repr

/-- The days that are read: a week unless a number is given, and a year at most. -/
def daysInForce (days : Nat) : Nat := if days = 0 then 7 else min days 365

/-- The rows that are read: 200 unless a number is given, and at most the ceiling, which is
at least one. -/
def limitInForce (ceiling limit : Nat) : Nat :=
  min (if limit = 0 then 200 else limit) (max ceiling 1)

namespace LogQuery

/-- The time from which on rows count. -/
def cutoff (q : LogQuery) (now : Instant) : Instant := now - Span.ofDays q.days

/-- The rows that answer a query. -/
def rows (q : LogQuery) (log : CheckLog) (now : Instant) : List Row :=
  log.readSince q.target (q.cutoff now) q.limit

end LogQuery

namespace Monitor

/-- The question that is put to the check log about a watched target; nothing is asked about
any other. -/
def logQuery? (m : Monitor) (ceiling : Nat) (target : String) (days limit : Nat) :
    Option LogQuery :=
  (m.registry.get? target).map fun t =>
    ⟨t.name, daysInForce days, limitInForce ceiling limit⟩

/-- The latest rows of a watched target, or nothing about any other. If the log cannot be read
there are no rows. -/
def logs (m : Monitor) (ceiling : Nat) (now : Instant) (target : String) (days limit : Nat)
    (readingSucceeds : Bool) : Option (List Row) :=
  (m.logQuery? ceiling target days limit).map fun q =>
    if readingSucceeds then q.rows m.store.log now else []

end Monitor

end Uptime

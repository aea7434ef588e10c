import Uptime.Alert.Event
import Uptime.NameMap
import Uptime.Status

/-!
# The registry

The registry holds the targets that are being watched and what is known about each. It is
kept in the order of names, with an index from names to places. Probe results are applied to
it one by one; a result for a target that has meanwhile been removed or redefined is ignored.

## Main definitions

* `TargetState`: a target and what is known about it.
* `TargetState.observe`: the rule by which a probe result changes a state.
* `Registry`: the targets in order, and their index.
* `Registry.replace`: takes over a list of definitions.
* `Registry.apply`: applies a probe result.
* `Registry.snapshot`: a copy of the states with their totals.
-/

namespace Uptime

/-- A watched target. -/
structure TargetState where
  /-- What is probed. -/
  identity : Identity
  /-- What is known about it. -/
  status : Status := .unknown
  /-- When the status changed last. -/
  lastChanged : Option Instant := none
  /-- When the last probe came back. -/
  lastChecked : Option Instant := none
  deriving DecidableEq, Repr, Inhabited

/-- The name of a watched target. -/
abbrev TargetState.name (t : TargetState) : String := t.identity.name

/-- What the result of a probe means. -/
structure Transition where
  /-- Why the check is recorded. -/
  reason : CheckReason
  /-- The event it gives rise to. -/
  event : Option Event
  deriving DecidableEq, Repr

/-- The event that a new status gives rise to, after the status before. A target that is up
at its first check is no news. -/
def TargetState.news (t : TargetState) (observed : Status) (now : Instant) : Option Event :=
  let event (kind : AlertKind) (reason : AlertReason) : Event :=
    ⟨kind, t.identity.name, t.identity.address, t.identity.port, reason, now⟩
  match t.status, observed with
  | .unknown, .down => some (event .down .initialCheck)
  | .up, .down => some (event .down .stateChange)
  | .down, .up => some (event .recovered .stateChange)
  | _, _ => none

/-- The state after a probe, and what the probe means. -/
def TargetState.observe (t : TargetState) (up : Bool) (now : Instant) :
    TargetState × Transition :=
  let observed := Status.ofProbe up
  if t.status = observed then
    ({ t with lastChecked := some now }, ⟨.poll, none⟩)
  else
    ({ t with status := observed, lastChanged := some now, lastChecked := some now },
      ⟨if t.status = .unknown then .first else .change, t.news observed now⟩)

/-- A probe leaves the identity alone. -/
@[simp] theorem TargetState.identity_observe (t : TargetState) (up : Bool) (now : Instant) :
    (t.observe up now).1.identity = t.identity := by
  by_cases h : t.status = Status.ofProbe up <;> simp [observe, h]

/-- Inserts a state into an ordered list, unless its name is there already. -/
def insertNew (t : TargetState) : List TargetState → List TargetState
  | [] => [t]
  | u :: us =>
    if t.name < u.name then t :: u :: us
    else if t.name = u.name then u :: us
    else u :: insertNew t us

/-- The watched targets. -/
structure Registry where
  /-- The states, in the order of names. -/
  targets : List TargetState := []
  /-- The place of each name. -/
  index : NameMap Nat := []
  deriving DecidableEq, Repr, Inhabited

/-- The states of a registry with their totals. -/
structure Snapshot where
  /-- When the copy was made. -/
  generatedAt : Instant
  /-- The number of targets. -/
  total : Nat
  /-- How many of them are up. -/
  up : Nat
  /-- How many of them are down. -/
  down : Nat
  /-- How many of them have not been probed. -/
  unknown : Nat
  /-- The states. -/
  targets : List TargetState
  deriving DecidableEq, Repr

namespace Registry

/-- The registry of an ordered list of states. -/
def ofStates (targets : List TargetState) : Registry :=
  ⟨targets, targets.zipIdx.map fun (t, i) => (t.name, i)⟩

/-- The state of a name. -/
def get? (r : Registry) (name : String) : Option TargetState := do
  let i ← r.index.find? name
  r.targets[i]?

/-- The identities, in the order of names. -/
def identities (r : Registry) : List Identity := r.targets.map TargetState.identity

/-- The state with which a definition is taken over: what is known is kept as long as the
identity stays the same. -/
def carry (r : Registry) (d : Definition) : TargetState :=
  match r.get? d.name with
  | some t => if t.identity = d.identity then t else { identity := d.identity }
  | none => { identity := d.identity }

/-- The registry of a list of definitions. Definitions that cannot be watched are left out,
and of several with one name the first counts. -/
def replace (r : Registry) (definitions : List Definition) : Registry :=
  ofStates
    (((definitions.filter fun d => d.Usable).map r.carry).foldl (fun ts t => insertNew t ts) [])

/-- Applies a probe result. Without effect and without a transition if no target with exactly
this identity is registered. -/
def apply (r : Registry) (id : Identity) (up : Bool) (now : Instant) :
    Registry × Option Transition :=
  match r.index.find? id.name with
  | none => (r, none)
  | some i =>
    match r.targets[i]? with
    | none => (r, none)
    | some t =>
      if t.identity = id then
        let (t, transition) := t.observe up now
        ({ r with targets := r.targets.set i t }, some transition)
      else (r, none)

/-- The number of targets with a status. -/
def count (r : Registry) (status : Status) : Nat :=
  r.targets.countP fun t => t.status = status

/-- A copy of the states with their totals. -/
def snapshot (r : Registry) (now : Instant) : Snapshot where
  generatedAt := now
  total := r.targets.length
  up := r.count .up
  down := r.count .down
  unknown := r.count .unknown
  targets := r.targets

end Registry

end Uptime

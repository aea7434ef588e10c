import Uptime.Check.Cycle
import Uptime.Proofs.Registry.View

/-!
# Rounds

A round is a check cycle that is taken apart: its calls of the store, its probes and the changes
of the catalog by others go on side by side, and between any two of their steps something else may
happen. The catalog is listed before the listing is adopted, a result is applied to the registry
before it is recorded, and the events are collected after the last probe has been launched.

## Main definitions

* `ProbeTask`, `Round`: a probe that was launched, and a cycle in progress.
* `RoundMove`, `Round.step?`, `Round.run?`: what may happen next, and what has happened so far.
* `Round.Step`: what a step does, in the form of a relation.
* `Round.call?`: the call that a step makes on the registry.

## Main results

* `Round.Step.of_step?`: each step is one of the relation.
* `Round.Step.registry_eq`: what a step does to the registry.
* `Round.runFrom?_induction`: what every step keeps holds throughout a round.
-/

namespace Uptime

/-! ### Steps that may be refused -/

section

variable {σ α : Type} {f : σ → α → Option σ} {s s' : σ}

/-- A step among others is made where those before it lead to. -/
theorem foldlM_append_cons_eq_some_iff {before after : List α} {a : α} :
    (before ++ a :: after).foldlM f s = some s' ↔
      ∃ q q', before.foldlM f s = some q ∧ f q a = some q' ∧ after.foldlM f q' = some s' := by
  rw [List.foldlM_append, Option.bind_eq_bind, Option.bind_eq_some_iff]
  refine exists_congr fun q => ?_
  rw [List.foldlM_cons, Option.bind_eq_bind, Option.bind_eq_some_iff]
  exact exists_and_left.symm

/-- What holds at the beginning and is kept by every step holds at the end. -/
theorem foldlM_induction {P : σ → Prop} (hbegin : P s)
    (hstep : ∀ {q q' : σ} {a : α}, P q → f q a = some q' → P q') :
    ∀ {as : List α}, as.foldlM f s = some s' → P s' := by
  intro as
  induction as generalizing s with
  | nil =>
    intro h
    cases h
    exact hbegin
  | cons a as ih =>
    intro h
    obtain ⟨q, hq, hrest⟩ := Option.bind_eq_some_iff.mp h
    exact ih (hstep hbegin hq) hrest

end

/-- How far a probe has come. -/
inductive ProbeStage
  /-- It is under way. -/
  | running
  /-- Its result has been applied to the registry and is to be recorded. -/
  | applied (result : CheckResult) (event : Option Event)
  /-- It has ended, and its event can be collected. -/
  | ended (event : Option Event)
  /-- Its event has been collected. -/
  | collected
  deriving DecidableEq, Repr

namespace ProbeStage

/-- The event that has been raised but not been collected. -/
def event? : ProbeStage → Option Event
  | running => none
  | applied _ event => event
  | ended event => event
  | collected => none

/-- The result that has been applied but not been handed to the check log. -/
def result? : ProbeStage → Option CheckResult
  | applied result _ => some result
  | _ => none

/-- A probe takes up a worker until it has ended. -/
def isBusy : ProbeStage → Bool
  | running => true
  | applied .. => true
  | _ => false

end ProbeStage

/-- A probe that was launched. -/
structure ProbeTask where
  /-- What is probed. -/
  identity : Identity
  /-- How far it has come. -/
  stage : ProbeStage := .running
  deriving DecidableEq, Repr

/-- How far a round has come. -/
inductive RoundStage
  /-- The catalog is to be listed. -/
  | listing
  /-- The listing is to be adopted. -/
  | adopting (definitions : Option (List Definition))
  /-- The targets are to be read off the registry. -/
  | reading
  /-- Probes are launched, for those that are waiting, and then collected. -/
  | probing (workers : Nat) (waiting : List Identity)
  /-- The events have been handed over. -/
  | finished
  deriving DecidableEq, Repr

/-- Whether the targets are yet to be read. -/
def RoundStage.isEarly : RoundStage → Bool
  | probing .. => false
  | finished => false
  | _ => true

/-- A check cycle in progress. -/
structure Round where
  /-- The monitor. -/
  monitor : Monitor
  /-- How far it has come. -/
  stage : RoundStage := .listing
  /-- The probes that were launched, in order. -/
  tasks : List ProbeTask := []
  /-- The results that were handed to the check log, in order. -/
  attempts : List Attempt := []
  /-- The events that were collected, in order. -/
  events : List Event := []
  /-- The batches that were handed over, in order. -/
  batches : List (List Event) := []
  deriving DecidableEq, Repr

/-- What may happen next. Probes go by their numbers. -/
inductive RoundMove
  /-- The catalog is listed, if that succeeds. -/
  | listed (succeeds : Bool)
  /-- The listing is adopted. -/
  | adopted
  /-- The targets are read off the registry. -/
  | read
  /-- The next target is probed. -/
  | launched
  /-- A probe dies. -/
  | died (i : Nat)
  /-- A probe returns, and its result is applied. -/
  | returned (i : Nat) (up : Bool) (now : Instant)
  /-- The result of a probe is handed to the check log, which may fail. -/
  | recorded (i : Nat) (succeeds : Bool)
  /-- A probe that has ended is collected. -/
  | collected (i : Nat)
  /-- The events are handed over. -/
  | handed
  /-- The round is cancelled. -/
  | cancelled
  /-- Somebody else changes the store. -/
  | stored (store : Store)
  /-- Somebody else brings the registry up to date. -/
  | replaced (definitions : List Definition)
  deriving DecidableEq, Repr

/-- Whether the round does it itself. -/
def RoundMove.isOwn : RoundMove → Bool
  | cancelled => false
  | stored _ => false
  | replaced _ => false
  | _ => true

namespace Round

/-- The targets of the probes that were launched. -/
def launched (r : Round) : List Identity := r.tasks.map ProbeTask.identity

/-- The targets that are still to be probed. -/
def waiting (r : Round) : List Identity :=
  match r.stage with
  | .probing _ ids => ids
  | _ => []

/-- The number of workers that are taken. -/
def busy (r : Round) : Nat := r.tasks.countP fun t => t.stage.isBusy

/-- A probe has come to another stage. -/
def enter (r : Round) (i : Nat) (id : Identity) (stage : ProbeStage) : Round :=
  { r with tasks := r.tasks.set i ⟨id, stage⟩ }

section Enter

variable (r : Round) (i : Nat) (id : Identity) (stage : ProbeStage)

@[simp] theorem monitor_enter : (r.enter i id stage).monitor = r.monitor := rfl

@[simp] theorem stage_enter : (r.enter i id stage).stage = r.stage := rfl

@[simp] theorem attempts_enter : (r.enter i id stage).attempts = r.attempts := rfl

@[simp] theorem events_enter : (r.enter i id stage).events = r.events := rfl

end Enter

/-- The round after a move, unless it is not its turn. -/
def step? (configuredWorkers : Nat) (r : Round) : RoundMove → Option Round
  | .listed succeeds =>
    match r.stage with
    | .listing => some { r with stage := .adopting (r.monitor.listing succeeds) }
    | _ => none
  | .adopted =>
    match r.stage with
    | .adopting definitions =>
      some { r with monitor := r.monitor.adopt definitions, stage := .reading }
    | _ => none
  | .read =>
    match r.stage with
    | .reading =>
      let ids := r.monitor.registry.identities
      some { r with stage := .probing (effectiveWorkers configuredWorkers ids.length) ids }
    | _ => none
  | .launched =>
    match r.stage with
    | .probing workers (id :: ids) =>
      if r.busy < workers then
        some { r with stage := .probing workers ids, tasks := r.tasks ++ [{ identity := id }] }
      else none
    | _ => none
  | .died i =>
    match r.tasks[i]? with
    | some ⟨id, .running⟩ => some (r.enter i id (.ended none))
    | _ => none
  | .returned i up now =>
    match r.tasks[i]? with
    | some ⟨id, .running⟩ =>
      match r.monitor.registry.apply id up now with
      | (registry, none) => some { r.enter i id (.ended none) with monitor.registry := registry }
      | (registry, some transition) =>
        let result : CheckResult := ⟨id, up, transition.reason, now⟩
        some { r.enter i id (.applied result transition.event) with monitor.registry := registry }
    | _ => none
  | .recorded i succeeds =>
    match r.tasks[i]? with
    | some ⟨id, .applied result event⟩ =>
      let store := if succeeds then r.monitor.store.append result else r.monitor.store
      some { r.enter i id (.ended event) with
        monitor.store := store
        attempts := r.attempts ++ [⟨result, succeeds⟩] }
    | _ => none
  | .collected i =>
    match r.stage, r.tasks[i]? with
    | .probing _ [], some ⟨id, .ended event⟩ =>
      some { r.enter i id .collected with events := r.events ++ event.toList }
    | _, _ => none
  | .handed =>
    match r.stage with
    | .probing _ [] =>
      if ∀ t ∈ r.tasks, t.stage = .collected then
        some { r with stage := .finished, batches := r.batches ++ [r.events] }
      else none
    | _ => none
  | .cancelled =>
    match r.stage with
    | .probing workers (_ :: _) => some { r with stage := .probing workers [] }
    | _ => none
  | .stored store => some { r with monitor.store := store }
  | .replaced definitions =>
    some { r with monitor.registry := r.monitor.registry.replace definitions }

/-- The round after some moves, if each comes at its turn. -/
def runFrom? (configuredWorkers : Nat) (r : Round) (moves : List RoundMove) : Option Round :=
  moves.foldlM (step? configuredWorkers) r

/-- A round of a monitor after some moves, if each comes at its turn. -/
def run? (configuredWorkers : Nat) (m : Monitor) (moves : List RoundMove) : Option Round :=
  runFrom? configuredWorkers { monitor := m } moves

/-! ### Steps -/

/-- What a move does to a round. -/
inductive Step (configuredWorkers : Nat) (r : Round) : RoundMove → Round → Prop
  | listed (h : r.stage = .listing) (succeeds : Bool) :
      Step configuredWorkers r (.listed succeeds)
        { r with stage := .adopting (r.monitor.listing succeeds) }
  | adopted {definitions : Option (List Definition)} (h : r.stage = .adopting definitions) :
      Step configuredWorkers r .adopted
        { r with monitor := r.monitor.adopt definitions, stage := .reading }
  | read (h : r.stage = .reading) :
      Step configuredWorkers r .read
        { r with
          stage := .probing
            (effectiveWorkers configuredWorkers r.monitor.registry.identities.length)
            r.monitor.registry.identities }
  | launched {workers : Nat} {id : Identity} {ids : List Identity}
      (h : r.stage = .probing workers (id :: ids)) (hbusy : r.busy < workers) :
      Step configuredWorkers r .launched
        { r with stage := .probing workers ids, tasks := r.tasks ++ [⟨id, .running⟩] }
  | died {i id} (h : r.tasks[i]? = some ⟨id, .running⟩) :
      Step configuredWorkers r (.died i) (r.enter i id (.ended none))
  | discarded {i id up now} (h : r.tasks[i]? = some ⟨id, .running⟩)
      (happly : (r.monitor.registry.apply id up now).2 = none) :
      Step configuredWorkers r (.returned i up now)
        { r.enter i id (.ended none) with
          monitor.registry := (r.monitor.registry.apply id up now).1 }
  | applied {i id up now transition} (h : r.tasks[i]? = some ⟨id, .running⟩)
      (happly : (r.monitor.registry.apply id up now).2 = some transition) :
      Step configuredWorkers r (.returned i up now)
        { r.enter i id (.applied ⟨id, up, transition.reason, now⟩ transition.event) with
          monitor.registry := (r.monitor.registry.apply id up now).1 }
  | recorded {i id result event} (h : r.tasks[i]? = some ⟨id, .applied result event⟩)
      (succeeds : Bool) :
      Step configuredWorkers r (.recorded i succeeds)
        { r.enter i id (.ended event) with
          monitor.store := if succeeds then r.monitor.store.append result else r.monitor.store
          attempts := r.attempts ++ [⟨result, succeeds⟩] }
  | collected {workers i id event} (hstage : r.stage = .probing workers [])
      (h : r.tasks[i]? = some ⟨id, .ended event⟩) :
      Step configuredWorkers r (.collected i)
        { r.enter i id .collected with events := r.events ++ event.toList }
  | handed {workers} (hstage : r.stage = .probing workers [])
      (h : ∀ t ∈ r.tasks, t.stage = .collected) :
      Step configuredWorkers r .handed
        { r with stage := .finished, batches := r.batches ++ [r.events] }
  | cancelled {workers id ids} (h : r.stage = .probing workers (id :: ids)) :
      Step configuredWorkers r .cancelled { r with stage := .probing workers [] }
  | stored (store : Store) :
      Step configuredWorkers r (.stored store) { r with monitor.store := store }
  | replaced (definitions : List Definition) :
      Step configuredWorkers r (.replaced definitions)
        { r with monitor.registry := r.monitor.registry.replace definitions }

section

variable {workers : Nat} {r r' : Round} {a : RoundMove}

/-- **What a step does.** -/
theorem Step.of_step? (h : r.step? workers a = some r') : Step workers r a r' := by
  cases a with
  | listed succeeds =>
    simp only [step?] at h
    split at h <;> cases h
    next hstage => exact .listed hstage succeeds
  | adopted =>
    simp only [step?] at h
    split at h <;> cases h
    next hstage => exact .adopted hstage
  | read =>
    simp only [step?] at h
    split at h <;> cases h
    next hstage => exact .read hstage
  | launched =>
    simp only [step?] at h
    split at h
    · next hstage =>
      split at h <;> cases h
      next hbusy => exact .launched hstage hbusy
    · cases h
  | died i =>
    simp only [step?] at h
    split at h <;> cases h
    next htask => exact .died htask
  | returned i up now =>
    simp only [step?] at h
    split at h
    · next id htask =>
      split at h <;> cases h
      · next registry happly =>
        have h₁ : registry = (r.monitor.registry.apply id up now).1 := by rw [happly]
        subst h₁
        exact .discarded htask (by rw [happly])
      · next registry transition happly =>
        have h₁ : registry = (r.monitor.registry.apply id up now).1 := by rw [happly]
        subst h₁
        exact .applied htask (by rw [happly])
    · cases h
  | recorded i succeeds =>
    simp only [step?] at h
    split at h <;> cases h
    next htask => exact .recorded htask succeeds
  | collected i =>
    simp only [step?] at h
    split at h <;> cases h
    next hstage htask => exact .collected hstage htask
  | handed =>
    simp only [step?] at h
    split at h
    · next hstage =>
      split at h <;> cases h
      next hcollected => exact .handed hstage hcollected
    · cases h
  | cancelled =>
    simp only [step?] at h
    split at h <;> cases h
    next hstage => exact .cancelled hstage
  | stored store =>
    cases h
    exact .stored store
  | replaced definitions =>
    cases h
    exact .replaced definitions

theorem runFrom?_append {q : Round} {moves more : List RoundMove}
    (h : runFrom? workers r moves = some q) (hmore : runFrom? workers q more = some r') :
    runFrom? workers r (moves ++ more) = some r' := by
  rw [runFrom?, List.foldlM_append, Option.bind_eq_bind]
  exact Option.bind_eq_some_iff.mpr ⟨q, h, hmore⟩

theorem runFrom?_append_cons {before after : List RoundMove} :
    runFrom? workers r (before ++ a :: after) = some r' ↔
      ∃ q q', runFrom? workers r before = some q ∧ q.step? workers a = some q' ∧
        runFrom? workers q' after = some r' :=
  foldlM_append_cons_eq_some_iff

/-- What holds at the beginning and is kept by every step holds after any moves. -/
theorem runFrom?_induction {P : Round → Prop} (hbegin : P r)
    (hstep : ∀ {q q' : Round} {a : RoundMove}, P q → Step workers q a q' → P q') :
    ∀ {moves : List RoundMove}, runFrom? workers r moves = some r' → P r' :=
  foldlM_induction hbegin fun hq h => hstep hq (.of_step? h)

end

/-! ### The registry -/

/-- The call that a move makes on the registry. -/
def call? (r : Round) : RoundMove → Option RegistryCall
  | .adopted =>
    match r.stage with
    | .adopting definitions => definitions.map .replace
    | _ => none
  | .returned i up now => r.tasks[i]?.map fun t => .apply t.identity up now
  | .replaced definitions => some (.replace definitions)
  | _ => none

/-- **What a step does to the registry.** -/
theorem Step.registry_eq {workers : Nat} {r r' : Round} {a : RoundMove}
    (h : Step workers r a r') :
    r'.monitor.registry = (r.call? a).elim r.monitor.registry r.monitor.registry.call := by
  cases h with
  | @adopted definitions hadopting =>
    cases definitions <;> simp [call?, hadopting, Monitor.adopt, Registry.call]
  | discarded htask happly => simp [call?, htask, Registry.call]
  | applied htask happly => simp [call?, htask, Registry.call]
  | _ => rfl

end Round

end Uptime

import Uptime.Proofs.Round
import Uptime.Proofs.Watch

/-!
# Cycles as rounds

A cycle whose probes take no time is a round in which each probe is launched, ends and is recorded
before the next one, and what others do through the monitor is made up of changes of the store and
new listings. So all that holds of rounds holds of such a cycle.

## Main definitions

* `Round.Follows`: a round has come as far as a cycle.

## Main results

* `Round.exists_moves_happening`: what happens through a monitor is made up of moves by others.
* `Round.exists_moves_probeFrom`: a round can follow the probes of a cycle.
* `Cycle.exists_round`: a cycle whose probes take no time is a round.
-/

namespace Uptime

variable {ω : Type}

/-! ### What happens through a monitor -/

/-- What happens through a monitor, other than the end of a probe, leaves it alone or is a change of
the store, if any, followed by a synchronisation. -/
theorem Cycle.step_of_quiet (c : Cycle) {h : Happening}
    (hquiet : (Move.happening h).probed = none) :
    ∃ m, c.step h = { c with monitor := m } ∧
      (m = c.monitor ∨ ∃ store ok, m = { c.monitor with store }.sync ok) := by
  cases h with
  | probed id outcome now ok => cases hquiet
  | upserted name address port writing ok =>
    refine ⟨_, rfl, ?_⟩
    exact (c.monitor.upsert_eq name address port writing ok).imp_right fun ⟨store, hstore⟩ =>
      ⟨store, ok, hstore⟩
  | deleted name writing ok =>
    refine ⟨_, rfl, ?_⟩
    exact (c.monitor.delete_eq name writing ok).imp_right fun ⟨store, hstore⟩ => ⟨store, ok, hstore⟩
  | synced ok => exact ⟨_, rfl, .inr ⟨c.monitor.store, ok, rfl⟩⟩

namespace Round

variable (workers : Nat)

/-- **What happens through a monitor is made up of moves by others.** -/
theorem exists_moves_happening (c : Cycle) {h : Happening}
    (hquiet : (Move.happening h).probed = none) :
    ∃ moves m, c.step h = { c with monitor := m } ∧ (∀ a ∈ moves, RoundMove.isOwn a = false) ∧
      ∀ r : Round, r.monitor = c.monitor →
        runFrom? workers r moves = some { r with monitor := m } := by
  obtain ⟨m, hstep, rfl | ⟨store, ok, rfl⟩⟩ := c.step_of_quiet hquiet
  · refine ⟨[], c.monitor, hstep, by simp, fun r hr => ?_⟩
    rw [← hr]
    rfl
  · cases ok with
    | false =>
      refine ⟨[.stored store], _, hstep, by simp [RoundMove.isOwn], fun r hr => ?_⟩
      rw [← hr]
      rfl
    | true =>
      refine ⟨[.stored store, .replaced store.catalog.list], _, hstep, by simp [RoundMove.isOwn],
        fun r hr => ?_⟩
      rw [← hr]
      rfl

theorem exists_moves_meanwhile {hs : List Happening} :
    ∀ {c : Cycle}, (∀ h ∈ hs, (Move.happening h).probed = none) →
      ∃ moves m, hs.foldl Cycle.step c = { c with monitor := m } ∧
        ∀ r : Round, r.monitor = c.monitor →
          runFrom? workers r moves = some { r with monitor := m } := by
  induction hs with
  | nil =>
    intro c _
    exact ⟨[], c.monitor, rfl, fun r hr => by rw [← hr]; rfl⟩
  | cons h hs ih =>
    intro c hquiet
    obtain ⟨moves, m, hstep, -, hmoves⟩ := exists_moves_happening workers c
      (hquiet h List.mem_cons_self)
    obtain ⟨more, m', hrest, hmore⟩ := ih (c := c.step h) fun h' hh' =>
      hquiet h' (List.mem_cons_of_mem _ hh')
    refine ⟨moves ++ more, m', ?_, fun r hr => ?_⟩
    · rw [List.foldl_cons, hrest, hstep]
    · exact runFrom?_append (hmoves r hr) (hmore { r with monitor := m } (by rw [hstep]))

/-! ### Probes one after the other -/

/-- A round has come as far as a cycle: all its probes have ended, and their events are those of the
cycle. -/
structure Follows (r : Round) (c : Cycle) : Prop where
  monitor_eq : r.monitor = c.monitor
  launched_eq : r.launched = c.launched
  attempts_eq : r.attempts = c.attempts
  news_eq : r.tasks.filterMap (fun t => t.stage.event?) = c.events
  ended : ∀ t ∈ r.tasks, ∃ event, t.stage = .ended event
  events_eq : r.events = []
  batches_eq : r.batches = []

theorem Follows.append {r : Round} {c : Cycle} (h : Follows r c) (m : Monitor) (stage : RoundStage)
    (id : Identity) (event : Option Event) (new : List Attempt) :
    Follows
      { r with
        monitor := m
        stage
        tasks := r.tasks ++ [⟨id, .ended event⟩]
        attempts := r.attempts ++ new }
      ⟨m, c.launched ++ [id], c.attempts ++ new, c.events ++ event.toList⟩ where
  monitor_eq := rfl
  launched_eq := by
    rw [← h.launched_eq, launched, List.map_append]
    rfl
  attempts_eq := by rw [h.attempts_eq]
  news_eq := by
    rw [List.filterMap_append, h.news_eq]
    cases event <;> rfl
  ended t ht := by
    rcases List.mem_append.mp ht with ht | ht
    · exact h.ended t ht
    · rw [List.mem_singleton.mp ht]
      exact ⟨event, rfl⟩
  events_eq := h.events_eq
  batches_eq := h.batches_eq

/-- The probe that was launched last returns, and its result is recorded if it is applied. -/
private theorem exists_moves_settle (r : Round) (c : Cycle) (m : Monitor) (stage : RoundStage)
    (id : Identity) (up : Bool) (now : Instant) (ok : Bool) :
    ∃ moves m' event new,
      runFrom? workers { r with monitor := m, stage, tasks := r.tasks ++ [⟨id, .running⟩] } moves =
        some { r with
          monitor := m'
          stage
          tasks := r.tasks ++ [⟨id, .ended event⟩]
          attempts := r.attempts ++ new } ∧
      { c with monitor := m, launched := c.launched ++ [id] }.settle id up now ok =
        ⟨m', c.launched ++ [id], c.attempts ++ new, c.events ++ event.toList⟩ := by
  cases happly : m.registry.apply id up now with
  | mk registry transition? =>
    cases transition? with
    | none =>
      refine ⟨[.returned r.tasks.length up now], { m with registry }, none, [], ?_, ?_⟩
      · simp [runFrom?, step?, happly, enter]
      · simp [Cycle.settle, Monitor.settle, happly]
    | some transition =>
      let result : CheckResult := ⟨id, up, transition.reason, now⟩
      refine ⟨[.returned r.tasks.length up now, .recorded r.tasks.length ok],
        ⟨registry, if ok then m.store.append result else m.store⟩, transition.event,
        [⟨result, ok⟩], ?_, ?_⟩
      · simp [runFrom?, step?, happly, enter, result]
      · simp [Cycle.settle, Monitor.settle, happly, result]

/-- The probe that was launched last ends, and the round has come as far as the cycle. -/
private theorem exists_moves_probed {r : Round} {c : Cycle} (h : Follows r c) (m : Monitor)
    (stage : RoundStage) (id : Identity) (outcome : ProbeOutcome) (now : Instant) (ok : Bool) :
    ∃ moves r',
      runFrom? workers { r with monitor := m, stage, tasks := r.tasks ++ [⟨id, .running⟩] } moves =
        some r' ∧ r'.stage = stage ∧
      Follows r' ({ c with monitor := m, launched := c.launched ++ [id] }.step
        (.probed id outcome now ok)) := by
  have hsettle : ∀ up, ∃ moves r',
      runFrom? workers { r with monitor := m, stage, tasks := r.tasks ++ [⟨id, .running⟩] } moves =
        some r' ∧ r'.stage = stage ∧
      Follows r' ({ c with monitor := m, launched := c.launched ++ [id] }.settle id up now ok) := by
    intro up
    obtain ⟨moves, m', event, new, hrun, hsettle⟩ :=
      exists_moves_settle workers r c m stage id up now ok
    refine ⟨moves, _, hrun, rfl, ?_⟩
    rw [hsettle]
    exact h.append m' stage id event new
  cases outcome with
  | up => exact hsettle true
  | down => exact hsettle false
  | died =>
    refine ⟨[.died r.tasks.length], _, ?_, ?_, by
      simpa [Cycle.step] using h.append m stage id none []⟩
    · simp [runFrom?, step?, enter]
    · rfl

/-- **A round can follow the probes of a cycle**, each of which ends before the next one is
launched. -/
theorem exists_moves_probeFrom {p : Prober ω} (hp : p.Quiet) (w : Nat) :
    ∀ (ids : List Identity) (i : Nat) (cancelledAfter : Option Nat) (c : Cycle) (world : ω)
      (r : Round) (free : Nat), 0 < free → r.stage = .probing free ids → Follows r c →
      ∃ moves r', runFrom? workers r moves = some r' ∧ r'.stage = .probing free [] ∧
        Follows r' (Cycle.probeFrom p w i cancelledAfter c world ids).1 := by
  intro ids
  induction ids with
  | nil =>
    intro i cancelledAfter c world r free _ hstage hr
    exact ⟨[], r, rfl, hstage, hr⟩
  | cons id ids ih =>
    intro i cancelledAfter c world r free hfree hstage hr
    rw [Cycle.probeFrom]
    split
    · refine ⟨[.cancelled], { r with stage := .probing free [] }, ?_, rfl, { hr with }⟩
      simp [runFrom?, step?, hstage]
    · let report := (p.probe id world).1
      -- the probe is launched, something happens meanwhile, and it ends
      have hlaunch : runFrom? workers r [.launched] = some { r with
          stage := .probing free ids
          tasks := r.tasks ++ [⟨id, .running⟩] } := by
        have hbusy : r.busy = 0 := by
          refine List.countP_eq_zero.mpr fun t ht hb => ?_
          obtain ⟨event, hevent⟩ := hr.ended t ht
          rw [hevent] at hb
          cases hb
        simp [runFrom?, step?, hstage, hbusy, hfree]
      obtain ⟨moves₂, m, hmeanwhile, hmoves₂⟩ := exists_moves_meanwhile workers
        (c := { c with launched := c.launched ++ [id] }) (hp id world)
      obtain ⟨moves₃, r₃, hmoves₃, hstage₃, hr₃⟩ := exists_moves_probed workers hr m
        (.probing free ids) id report.outcome report.now report.recordingSucceeds
      obtain ⟨moves, r', hmoves, hstage', hr'⟩ := ih (i + 1)
        (cancelledAfter.or (if report.cancels then some (i + 1) else none)) _
        (p.probe id world).2 r₃ free hfree hstage₃ hr₃
      refine ⟨_, r', runFrom?_append (runFrom?_append (runFrom?_append hlaunch
        (hmoves₂ _ hr.monitor_eq)) hmoves₃) hmoves, hstage', ?_⟩
      rw [← hmeanwhile] at hr'
      exact hr'

/-! ### The end -/

/-- Probes that have ended are collected in order. -/
theorem exists_moves_collected {free : Nat} : ∀ (todo done : List ProbeTask) (r : Round),
    r.stage = .probing free [] → r.tasks = done ++ todo →
    (∀ t ∈ done, t.stage = .collected) → (∀ t ∈ todo, ∃ event, t.stage = .ended event) →
    ∃ moves tasks, runFrom? workers r moves = some { r with
        tasks
        events := r.events ++ todo.filterMap fun t => t.stage.event? } ∧
      tasks.map ProbeTask.identity = r.launched ∧ ∀ t ∈ tasks, t.stage = .collected := by
  intro todo
  induction todo with
  | nil =>
    intro done r _ htasks hdone _
    rw [List.append_nil] at htasks
    refine ⟨[], r.tasks, ?_, rfl, by rwa [htasks]⟩
    simp [runFrom?]
  | cons t todo ih =>
    intro done r hstage htasks hdone htodo
    obtain ⟨id, stage⟩ := t
    obtain ⟨event, rfl⟩ := htodo _ List.mem_cons_self
    have hcollect : runFrom? workers r [.collected done.length] = some { r with
        tasks := (done ++ [⟨id, .collected⟩]) ++ todo
        events := r.events ++ event.toList } := by
      simp [runFrom?, step?, hstage, htasks, enter]
    obtain ⟨moves, tasks, hmoves, htargets, hcollected⟩ := ih (done ++ [⟨id, .collected⟩])
      { r with
        tasks := (done ++ [⟨id, .collected⟩]) ++ todo
        events := r.events ++ event.toList }
      hstage rfl (fun t ht => by
        rcases List.mem_append.mp ht with ht | ht
        · exact hdone t ht
        · rw [List.mem_singleton.mp ht])
      fun t ht => htodo t (List.mem_cons_of_mem _ ht)
    refine ⟨[.collected done.length] ++ moves, tasks, runFrom?_append hcollect ?_, ?_, hcollected⟩
    · rw [hmoves, List.filterMap_cons]
      cases event <;> simp [ProbeStage.event?]
    · rw [htargets, launched, launched, htasks]
      simp

end Round

/-- **A cycle whose probes take no time is a round**: it ends with the same monitor, after the same
probes and attempts, and hands over the same events. -/
theorem Cycle.exists_round {p : Prober ω} (hp : p.Quiet) (workers : Nat)
    (cancelled listingSucceeds : Bool) (m : Monitor) (world : ω) :
    let c := (Cycle.run p workers cancelled listingSucceeds m world).1
    ∃ moves r, Round.run? workers m moves = some r ∧ r.stage = .finished ∧
      r.monitor = c.monitor ∧ r.launched = c.launched ∧ r.attempts = c.attempts ∧
      r.batches = [c.events] := by
  intro c
  let ids := (m.sync listingSucceeds).registry.identities
  let r₀ : Round :=
    { monitor := m.sync listingSucceeds
      stage := .probing (effectiveWorkers workers ids.length) ids }
  have hbegin : Round.runFrom? workers { monitor := m } [.listed listingSucceeds, .adopted, .read] =
      some r₀ := rfl
  obtain ⟨moves, r, hmoves, hstage, hr⟩ := Round.exists_moves_probeFrom workers hp
    (effectiveWorkers workers ids.length) ids 0 (if cancelled then some 0 else none)
    (Cycle.start m listingSucceeds) world r₀ _ (effectiveWorkers_pos _ _) rfl
    ⟨rfl, rfl, rfl, rfl, by simp [r₀], rfl, rfl⟩
  obtain ⟨more, tasks, hmore, htargets, hcollected⟩ := Round.exists_moves_collected
    workers r.tasks [] r hstage rfl (by simp) hr.ended
  have hhanded : Round.runFrom? workers
      { r with tasks, events := r.events ++ r.tasks.filterMap fun t => t.stage.event? } [.handed] =
      some { r with
        stage := .finished
        tasks
        events := r.events ++ r.tasks.filterMap fun t => t.stage.event?
        batches := r.batches ++ [r.events ++ r.tasks.filterMap fun t => t.stage.event?] } := by
    simp only [Round.runFrom?, List.foldlM_cons, List.foldlM_nil, Round.step?, hstage,
      if_pos hcollected]
    rfl
  refine ⟨_, _, Round.runFrom?_append (Round.runFrom?_append (Round.runFrom?_append hbegin hmoves)
    hmore) hhanded, rfl, hr.monitor_eq, htargets.trans hr.launched_eq, hr.attempts_eq, ?_⟩
  rw [hr.batches_eq, hr.events_eq, hr.news_eq]
  rfl

end Uptime

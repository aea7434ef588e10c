import Uptime.Proofs.Launches
import Uptime.Proofs.Registry.Epoch
import Uptime.Proofs.Round.Schedule

/-!
# Episodes

An episode is a cycle of a run with the monitors before and after it. Its probes are launched one
after the other for as long as the cycle is not cancelled, and each that has been launched runs to
its end and is applied and recorded. What comes of the episode is what these results come to in any
order; targets whose probes are not launched are left alone.

## Main definitions

* `Cycle.settleAll`: some results are taken over one after the other.
* `Episode`, `RunPlan.episode`: an episode, and that of a cycle with a number.
* `Episode.Settled`: what comes of an episode.
* `Episode.Heeds`: which probes an episode launches if it is cancelled.

## Main results

* `Cycle.settleAll_eq`: what some results come to in a cycle.
* `RunPlan.settled_episode`, `RunPlan.heeds_episode`: every episode is settled and heeds its
  cancellation.
-/

namespace Uptime

/-! ### Taking over results -/

namespace Cycle

/-- Takes over some results one after the other, each of which is recorded. -/
def settleAll (c : Cycle) (xs : List ProbeResult) : Cycle :=
  xs.foldl (fun c x => c.settle x.identity x.up x.now true) c

/-- **What some results come to in a cycle** is what they come to in its registry. -/
theorem settleAll_eq (c : Cycle) (xs : List ProbeResult) :
    c.settleAll xs =
      { c with
        monitor :=
          ⟨c.monitor.registry.takeAll xs,
            (Registry.rows (c.monitor.registry.answers xs)).foldl Store.append c.monitor.store⟩
        attempts := c.attempts ++
          (Registry.rows (c.monitor.registry.answers xs)).map fun row => ⟨row, true⟩
        events := c.events ++ Registry.events (c.monitor.registry.answers xs) } := by
  induction xs generalizing c with
  | nil => simp [settleAll, Registry.rows, Registry.events, Registry.answers]
  | cons x xs ih =>
    rw [settleAll, List.foldl_cons, ← settleAll, ih, settle, Monitor.settle]
    cases hanswer : c.monitor.registry.apply x.identity x.up x.now with
    | mk registry transition? =>
      cases transition? with
      | none => simp [Registry.rows, Registry.events, hanswer]
      | some transition =>
        cases hevent : transition.event <;>
          simp [Registry.rows, Registry.events, hanswer, hevent]

end Cycle

/-! ### Episodes -/

/-- A cycle of a run, with the monitors before and after it. -/
structure Episode where
  /-- The monitor when the cycle begins. -/
  before : Monitor
  /-- The cycle. -/
  cycle : TimedCycle
  /-- The monitor when the cycle has ended. -/
  after : Monitor

/-- The result of a probe that is launched in the cycle with the number `k`. -/
def RunPlan.result (p : RunPlan) (k : Nat) (probe : Identity × Launch) : ProbeResult :=
  ⟨probe.1, p.answers k probe.1, .atMillis probe.2.finish⟩

/-- The episode of the cycle with the number `k`, which begins at `start`. -/
def RunPlan.episode (p : RunPlan) (k start : Nat) (m : Monitor) : Episode :=
  ⟨m, (p.cycle k start m).1, (p.cycle k start m).2⟩

namespace Episode

/-- The monitor when the targets are read. -/
def opened (e : Episode) : Monitor := e.before.sync true

/-- The targets whose probes are launched, in order. -/
def targets (e : Episode) : List Identity := e.cycle.launched.map Prod.fst

/-- The times of the probes that are launched, in order. -/
def times (e : Episode) : List Launch := e.cycle.launched.map Prod.snd

/-- The answers of the registry to the results of the probes. -/
def answers (p : RunPlan) (k : Nat) (e : Episode) : List (ProbeResult × Option Transition) :=
  e.opened.registry.answers (e.cycle.launched.map (p.result k))

/-- What comes of the episode `e` of the cycle with the number `k`. -/
structure Settled (p : RunPlan) (k : Nat) (e : Episode) : Prop where
  /-- The targets are read in the order of names, -/
  sorted : e.opened.registry.Sorted
  /-- the probes of the first of them are launched, -/
  targets_prefix : e.targets <+: e.opened.registry.identities
  /-- and each of these runs to its end within the cycle. -/
  runs : ∀ probe ∈ e.cycle.launched, e.cycle.start ≤ probe.2.start ∧
    probe.2.finish = probe.2.start + p.latency probe.1 ∧ probe.2.finish ≤ e.cycle.finish
  finish_eq : e.cycle.finish = e.cycle.start ∨
    ∃ probe ∈ e.cycle.launched, e.cycle.finish = probe.2.finish
  /-- Each result is applied: the target takes it over, and the registry answers it. -/
  applied : ∀ probe ∈ e.cycle.launched, ∃ t t' transition,
    e.opened.registry.get? probe.1.name = some t ∧ t.identity = probe.1 ∧
      e.after.registry.get? probe.1.name = some t' ∧
      t.Observation (p.answers k probe.1) (.atMillis probe.2.finish) t' transition ∧
      (p.result k probe, some transition) ∈ e.answers p k
  /-- What is registered stays registered, and nothing else comes to be. -/
  identities_eq : e.after.registry.identities = e.opened.registry.identities
  /-- There is one answer for each result and no other, -/
  answers_eq : (e.answers p k).map Prod.fst = e.cycle.launched.map (p.result k)
  /-- the rows of the answers are recorded, and nothing else is written, -/
  store_eq : ∃ rows : List CheckResult, rows.Perm (Registry.rows (e.answers p k)) ∧
    e.after.store = rows.foldl Store.append e.opened.store
  /-- and their events are handed over in one batch. -/
  events_perm : e.cycle.events.Perm (Registry.events (e.answers p k))
  /-- A target whose probe is not launched keeps its state, and there is no row and no event
  about it. -/
  left_alone : ∀ id ∈ e.opened.registry.identities, id ∉ e.targets →
    e.after.registry.get? id.name = e.opened.registry.get? id.name ∧
      (∀ row ∈ Registry.rows (e.answers p k), row.identity.name ≠ id.name) ∧
      ∀ event ∈ e.cycle.events, event.target ≠ id.name

/-- What is known of a target in the end whose probe is launched. -/
theorem Settled.get?_after {p : RunPlan} {k : Nat} {e : Episode} (h : e.Settled p k)
    {probe : Identity × Launch} (hprobe : probe ∈ e.cycle.launched) {t : TargetState}
    (hget : e.opened.registry.get? probe.1.name = some t) :
    e.after.registry.get? probe.1.name = some
      { identity := t.identity
        status := if p.answers k probe.1 then .up else .down
        lastChanged :=
          if (if p.answers k probe.1 then Status.up else .down) = t.status then t.lastChanged
          else some (.atMillis probe.2.finish)
        lastChecked := some (.atMillis probe.2.finish) } := by
  obtain ⟨t₀, t', transition, hopened, -, hafter, hobserved, -⟩ := h.applied probe hprobe
  obtain rfl : t₀ = t := Option.some.inj (hopened.symm.trans hget)
  rw [hafter, hobserved.eq]

/-- Which probes an episode with a configured number of workers launches if it is cancelled at the
time `c`. -/
structure Heeds (workers c : Nat) (e : Episode) : Prop where
  /-- Each is decided on before the cancellation. -/
  decided : ∀ i < e.times.length, decidedAt e.cycle.start e.times i < c
  /-- Only the last one can be launched after it, and has waited for a worker since it was decided
  on. -/
  late : ∀ i l, e.times[i]? = some l → c ≤ l.start → i + 1 = e.times.length ∧
    effectiveWorkers workers e.opened.registry.identities.length ≤
      inFlight (e.times.take i) (decidedAt e.cycle.start e.times i)
  /-- A target is left out only if the episode is cancelled when it is decided on. -/
  refused : e.targets.length < e.opened.registry.identities.length →
    c ≤ decidedAt e.cycle.start e.times e.times.length

end Episode

/-- What is launched is launched for the first targets. -/
theorem map_fst_zip_prefix {α β : Type} (xs : List α) (ys : List β) :
    (xs.zip ys).map Prod.fst <+: xs := by
  induction xs generalizing ys with
  | nil => exact List.nil_prefix
  | cons x xs ih =>
    cases ys with
    | nil => exact List.nil_prefix
    | cons y ys => exact List.cons_prefix_cons.mpr ⟨rfl, ih ys⟩

namespace RunPlan

variable (p : RunPlan) (k start : Nat) (m : Monitor)

/-- The launches of a cycle. -/
def launchesFrom : List Launch :=
  let ids := (m.sync true).registry.identities
  launches (effectiveWorkers p.workers ids.length) (knownAt p.cancelledFrom) start []
    (ids.map p.latency)

theorem length_launchesFrom_le :
    (p.launchesFrom start m).length ≤ (m.sync true).registry.identities.length := by
  simpa [launchesFrom] using length_launches_le _ _ start []
    ((m.sync true).registry.identities.map p.latency)

theorem times_episode : (p.episode k start m).times = p.launchesFrom start m :=
  List.map_snd_zip (p.length_launchesFrom_le start m)

/-- **What comes of an episode** is settled by its results, in the order in which the probes end. -/
theorem settleAll_episode : ∃ ended : List (Identity × Launch),
    ended.Perm (p.episode k start m).cycle.launched ∧
    (p.episode k start m).cycle.events =
      ((Cycle.start m true).settleAll (ended.map (p.result k))).events ∧
    (p.episode k start m).after =
      ((Cycle.start m true).settleAll (ended.map (p.result k))).monitor := by
  refine ⟨_, List.mergeSort_perm _ fun a b : Identity × Launch => a.2.finish ≤ b.2.finish, ?_⟩
  rw [Cycle.settleAll, List.foldl_map]
  exact ⟨rfl, rfl⟩

omit p k start in
theorem indexed_opened : (m.sync true).registry.Indexed :=
  m.registry.indexed_replace m.store.catalog.list

omit p k start in
theorem sorted_opened : (m.sync true).registry.Sorted :=
  m.registry.sorted_replace m.store.catalog.list

theorem prefix_targets_episode :
    (p.episode k start m).targets <+: (m.sync true).registry.identities :=
  map_fst_zip_prefix _ _

/-- A probe that is launched is that of a target, and has the times of its launch. -/
theorem exists_launch {i : Nat} {probe : Identity × Launch}
    (h : (p.episode k start m).cycle.launched[i]? = some probe) :
    (m.sync true).registry.identities[i]? = some probe.1 ∧
      (p.launchesFrom start m)[i]? = some probe.2 :=
  List.getElem?_zip_eq_some.mp h

/-- **An episode heeds its cancellation.** -/
theorem heeds_episode {c : Nat} (hc : p.cancelledFrom = some c) :
    (p.episode k start m).Heeds p.workers c := by
  have hknown : ∀ t, knownAt p.cancelledFrom t = decide (c ≤ t) := by
    intro t
    rw [hc]
    rfl
  have htimes := p.times_episode k start m
  have hstart : (p.episode k start m).cycle.start = start := rfl
  refine ⟨fun i hi => ?_, fun i l hl hlate => ?_, fun hlt => ?_⟩
  · rw [htimes] at hi ⊢
    have hdecided := launches_decided hi
    rw [hknown, decide_eq_false_iff_not, not_le] at hdecided
    exact hdecided
  · rw [htimes] at hl ⊢
    have hi : i < (p.launchesFrom start m).length := (List.getElem?_eq_some_iff.mp hl).1
    have hdecided := launches_decided hi
    rw [hknown, decide_eq_false_iff_not, not_le] at hdecided
    exact ⟨last_of_cancelled rfl hl (by rw [hknown]; simpa using hlate),
      workers_le_inFlight rfl hl (lt_of_lt_of_le hdecided hlate)⟩
  · have hlength : (p.episode k start m).targets.length = (p.launchesFrom start m).length := by
      rw [← htimes, Episode.targets, Episode.times, List.length_map, List.length_map]
    rw [hlength] at hlt
    rw [htimes]
    have hds : (p.launchesFrom start m).length <
        ((m.sync true).registry.identities.map p.latency).length := by rwa [List.length_map]
    have hrefused := launches_refused hds
    rw [hknown, decide_eq_true_eq] at hrefused
    exact hrefused

/-- The probes run for their times within the cycle. -/
theorem runs_episode {probe : Identity × Launch}
    (h : probe ∈ (p.episode k start m).cycle.launched) :
    start ≤ probe.2.start ∧ probe.2.finish = probe.2.start + p.latency probe.1 ∧
      probe.2.finish ≤ (p.episode k start m).cycle.finish := by
  obtain ⟨i, hi⟩ := List.mem_iff_getElem?.mp h
  obtain ⟨hid, hl⟩ := p.exists_launch k start m hi
  have hlt : i < (p.launchesFrom start m).length := (List.getElem?_eq_some_iff.mp hl).1
  refine ⟨?_, finish_eq_start_add hl (by rw [List.getElem?_map, hid]; rfl),
    finish_le_finish start (List.mem_of_getElem? hl)⟩
  have hfirst : decidedAt start (p.launchesFrom start m) 0 ≤
      decidedAt start (p.launchesFrom start m) i := decidedAt_mono rfl (Nat.zero_le i) hlt.le
  rw [decidedAt_zero] at hfirst
  exact hfirst.trans (decidedAt_le_start hl)

theorem finish_episode : (p.episode k start m).cycle.finish = start ∨
    ∃ probe ∈ (p.episode k start m).cycle.launched,
      (p.episode k start m).cycle.finish = probe.2.finish := by
  rcases finish_eq_or_exists start (p.launchesFrom start m) with hnone | ⟨l, hl, hfinish⟩
  · exact .inl hnone
  · rw [← p.times_episode k start m] at hl
    obtain ⟨probe, hprobe, rfl⟩ := List.mem_map.mp hl
    exact .inr ⟨probe, hprobe, hfinish⟩

/-- The results are for targets with different names. -/
theorem nodup_results_episode : (((p.episode k start m).cycle.launched.map (p.result k)).map
    fun x => x.identity.name).Nodup := by
  have hnames := (sorted_opened m).nodup_names.sublist
    ((p.prefix_targets_episode k start m).sublist.map Identity.name)
  rw [Episode.targets, List.map_map] at hnames
  rw [List.map_map]
  exact hnames

theorem nodup_identities_episode :
    (((p.episode k start m).cycle.launched.map (p.result k)).map ProbeResult.identity).Nodup := by
  refine .of_map Identity.name ?_
  rw [List.map_map]
  exact p.nodup_results_episode k start m

/-- **What comes of an episode** is what comes of its results in the order of their launches, but
for the order of rows and events. -/
theorem taken_episode :
    let e := p.episode k start m
    e.after.registry = e.opened.registry.takeAll (e.cycle.launched.map (p.result k)) ∧
      (∃ rows : List CheckResult, rows.Perm (Registry.rows (e.answers p k)) ∧
        e.after.store = rows.foldl Store.append e.opened.store) ∧
      e.cycle.events.Perm (Registry.events (e.answers p k)) := by
  intro e
  obtain ⟨ended, hperm, hevents, hafter⟩ := p.settleAll_episode k start m
  rw [Cycle.settleAll_eq] at hevents hafter
  have halike := Registry.takesAlike_of_perm (indexed_opened m) (hperm.map (p.result k)).symm
    (p.nodup_identities_episode k start m)
  refine ⟨?_, ⟨_, halike.rows_perm.symm, congrArg Monitor.store hafter⟩, ?_⟩
  · exact (congrArg Monitor.registry hafter).trans halike.takeAll_eq.symm
  · exact (List.Perm.of_eq hevents).trans halike.events_perm.symm

/-- Each result is answered as if it were the only one. -/
theorem answers_episode : (p.episode k start m).answers p k =
    ((p.episode k start m).cycle.launched.map (p.result k)).map
      fun x => (x, ((p.episode k start m).opened.registry.take x).2) :=
  Registry.answers_eq_map (indexed_opened m) (p.nodup_identities_episode k start m)

/-- A result that comes in is applied. -/
theorem applied_episode {probe : Identity × Launch}
    (h : probe ∈ (p.episode k start m).cycle.launched) : ∃ t t' transition,
      (p.episode k start m).opened.registry.get? probe.1.name = some t ∧ t.identity = probe.1 ∧
        (p.episode k start m).after.registry.get? probe.1.name = some t' ∧
        t.Observation (p.answers k probe.1) (.atMillis probe.2.finish) t' transition ∧
        (p.result k probe, some transition) ∈ (p.episode k start m).answers p k := by
  have hid := (p.prefix_targets_episode k start m).subset (List.mem_map_of_mem h)
  obtain ⟨t, hget, ht⟩ := (Registry.mem_identities_iff (indexed_opened m)).mp hid
  have hx := List.mem_map_of_mem (f := p.result k) h
  refine ⟨t, _, _, hget, ht, ?_, t.observation_observe _ _, ?_⟩
  · rw [(p.taken_episode k start m).1]
    exact Registry.get?_takeAll_of_mem (indexed_opened m) (p.nodup_results_episode k start m) hx
      hget ht
  · obtain ⟨_, -, -, htake⟩ := Registry.take_of_get? (x := p.result k probe) hget ht
    rw [answers_episode]
    exact List.mem_map.mpr ⟨_, hx, by rw [Episode.opened, episode, htake]; rfl⟩

/-- A target whose probe is not launched shares its name with none whose probe is. -/
theorem name_ne_of_notMem_targets {id : Identity}
    (hid : id ∈ (p.episode k start m).opened.registry.identities)
    (hnone : id ∉ (p.episode k start m).targets) {x : ProbeResult}
    (hx : x ∈ (p.episode k start m).cycle.launched.map (p.result k)) :
    x.identity.name ≠ id.name := by
  obtain ⟨probe, hprobe, rfl⟩ := List.mem_map.mp hx
  have hmem : probe.1 ∈ (p.episode k start m).targets := List.mem_map_of_mem hprobe
  intro heq
  have hsame : probe.1 = id := List.inj_on_of_nodup_map (sorted_opened m).nodup_names
    ((p.prefix_targets_episode k start m).subset hmem) hid heq
  exact hnone (hsame ▸ hmem)

/-- **Every episode is settled.** -/
theorem settled_episode : (p.episode k start m).Settled p k := by
  obtain ⟨hregistry, hstore, hevents⟩ := p.taken_episode k start m
  have hanswers : ((p.episode k start m).answers p k).map Prod.fst =
      (p.episode k start m).cycle.launched.map (p.result k) := by
    rw [answers_episode, List.map_map]
    exact List.map_id _
  exact
    { sorted := sorted_opened m
      targets_prefix := p.prefix_targets_episode k start m
      runs := fun _ hprobe => p.runs_episode k start m hprobe
      finish_eq := p.finish_episode k start m
      applied := fun _ hprobe => p.applied_episode k start m hprobe
      identities_eq := by rw [hregistry, Registry.identities_takeAll]
      answers_eq := hanswers
      store_eq := hstore
      events_perm := hevents
      left_alone := fun id hid hnone => by
        have hname : ∀ x ∈ (p.episode k start m).cycle.launched.map (p.result k),
            x.identity.name ≠ id.name :=
          fun _ hx => p.name_ne_of_notMem_targets k start m hid hnone hx
        refine ⟨?_, fun row hrow heq => ?_, fun event hevent heq => ?_⟩
        · rw [hregistry]
          refine Registry.get?_takeAll_of_notMem (indexed_opened m) fun hmem => ?_
          obtain ⟨x, hx, heq⟩ := List.mem_map.mp hmem
          exact hname x hx heq
        · obtain ⟨x, hx, hrow⟩ := Registry.exists_of_mem_rows hrow
          rw [hanswers] at hx
          exact hname x hx (hrow ▸ heq)
        · obtain ⟨x, hx, htarget⟩ :=
            Registry.exists_of_mem_events (hevents.mem_iff.mp hevent)
          exact hname x hx (htarget ▸ heq) }

end RunPlan

end Uptime

import Uptime.Proofs.Registry.Results
import Uptime.Proofs.Round.Sequential
import Uptime.Proofs.Round.Accounting
import Uptime.Proofs.Unlogged

/-!
# Schedules

What comes of a cycle is settled by what its probes bring. The order in which the probes are
launched, return, are recorded and collected is left to a schedule, and so is the number of workers;
as long as nobody else replaces the registry meanwhile, every schedule of a cycle leads to the same
registry, the same rows and the same events. The next cycle begins with that registry, so this goes
for any number of cycles.

## Main definitions

* `Assignment`, `Schedule`: what is given of a cycle, and what is left open.
* `Assignment.round?`, `rounds?`: a cycle by a schedule, and some cycles one after the other.
* `Assignment.Settles`: what comes of a cycle.
* `Round.Alike`: two rounds come to the same.

## Main results

* `Assignment.Underway.step`: what every step of a cycle keeps.
* `Assignment.settles_round`: what comes of a cycle is settled, whatever its schedule.
* `schedules_alike`: two schedules of some cycles come to the same, cycle by cycle.
-/

namespace Uptime

/-! ### How a probe ends -/

namespace ProbeEnd

/-- The result that comes back. -/
def returned? : ProbeEnd → Option ProbeResult
  | died _ => none
  | returned id up now _ => some ⟨id, up, now⟩

/-- The result that comes back, and what the registry answers. -/
def answer? : ProbeEnd → Option (ProbeResult × Option Transition)
  | died _ => none
  | returned id up now transition => some (⟨id, up, now⟩, transition)

theorem result?_eq (e : ProbeEnd) : e.result? =
    e.answer?.bind fun a => a.2.map fun t => ⟨a.1.identity, a.1.up, t.reason, a.1.now⟩ := by
  cases e <;> rfl

theorem event?_eq (e : ProbeEnd) :
    e.event? = e.answer?.bind fun a => a.2.bind Transition.event := by
  cases e <;> rfl

/-- The rows of some ends are those of the answers. -/
theorem filterMap_result? (es : List ProbeEnd) :
    es.filterMap result? = Registry.rows (es.filterMap answer?) := by
  rw [Registry.rows, List.filterMap_filterMap]
  exact List.filterMap_congr fun e _ => e.result?_eq

/-- The events of some ends are those of the answers. -/
theorem filterMap_event? (es : List ProbeEnd) :
    es.filterMap event? = Registry.events (es.filterMap answer?) := by
  rw [Registry.events, List.filterMap_filterMap]
  exact List.filterMap_congr fun e _ => e.event?_eq

end ProbeEnd

/-! ### Assignments and schedules -/

/-- What is given of a cycle. -/
structure Assignment where
  /-- What happens through the monitor before the cycle begins. -/
  before : List Happening := []
  /-- Whether the catalog can be listed. -/
  listing : Bool := true
  /-- Whether a target answers its probe and when the probe comes back, unless it dies. -/
  report : Identity → Option (Bool × Instant)

/-- What is left open: how many workers there are, and the order of the steps. -/
structure Schedule where
  /-- The configured number of workers. -/
  workers : Nat
  /-- The steps, in order. -/
  moves : List RoundMove

namespace Assignment

variable (a : Assignment)

/-- The result of the probe of a target, if it comes back. -/
def result? (id : Identity) : Option ProbeResult :=
  (a.report id).map fun (up, now) => ⟨id, up, now⟩

/-- The monitor when the cycle begins. -/
def begin (m : Monitor) : Monitor := a.before.foldl (fun m h => h.on m) m

/-- The monitor when the targets are read. -/
def opened (m : Monitor) : Monitor := (a.begin m).sync a.listing

/-- The results that come back, in the order of the targets. -/
def results (m : Monitor) : List ProbeResult := (a.opened m).registry.identities.filterMap a.result?

/-- A move keeps to what is given, and is made by the cycle itself. Whether a result can be recorded
is left open. -/
def permits (r : Round) : RoundMove → Bool
  | .listed succeeds => succeeds == a.listing
  | .died i => r.tasks[i]?.all fun t => (a.report t.identity).isNone
  | .returned i up now => r.tasks[i]?.all fun t => a.report t.identity == some (up, now)
  | .cancelled => false
  | .stored _ => false
  | .replaced _ => false
  | _ => true

/-- The round after a move that keeps to what is given. -/
def step? (workers : Nat) (r : Round) (b : RoundMove) : Option Round :=
  if a.permits r b then r.step? workers b else none

/-- The cycle by a schedule, if that brings it to its end. -/
def round? (m : Monitor) (s : Schedule) : Option Round :=
  (s.moves.foldlM (a.step? s.workers) { monitor := a.begin m }).filter fun r => r.stage = .finished

end Assignment

/-- Some cycles by their schedules, one after the other. -/
def rounds? : Monitor → List Assignment → List Schedule → Option (List Round)
  | _, [], [] => some []
  | m, a :: as, s :: ss => do
    let r ← a.round? m s
    let rs ← rounds? r.monitor as ss
    return r :: rs
  | _, _, _ => none

/-! ### The registry between cycles -/

/-- The registry of a monitor is one that calls have made. -/
def Monitor.Reachable (m : Monitor) : Prop := ∃ calls, m.registry = Registry.after calls

namespace Monitor

variable {m : Monitor}

theorem Reachable.indexed (h : m.Reachable) : m.registry.Indexed := by
  obtain ⟨calls, heq⟩ := h
  rw [heq]
  exact Registry.indexed_after calls

theorem Reachable.call (h : m.Reachable) (c : RegistryCall) (store : Store) :
    Reachable ⟨m.registry.call c, store⟩ := by
  obtain ⟨calls, heq⟩ := h
  exact ⟨calls ++ [c], by rw [Registry.after_append_singleton, ← heq]⟩

theorem Reachable.takeAll (h : m.Reachable) (xs : List ProbeResult) (store : Store) :
    Reachable ⟨m.registry.takeAll xs, store⟩ := by
  induction xs generalizing m with
  | nil => exact h
  | cons x xs ih => exact ih (h.call (.apply x.identity x.up x.now) store)

theorem Reachable.sync (h : m.Reachable) (store : Store) (ok : Bool) :
    ({ m with store }.sync ok).Reachable := by
  cases ok with
  | false => exact h
  | true => exact h.call (.replace store.catalog.list) store

theorem Reachable.settle (h : m.Reachable) (id : Identity) (up : Bool) (now : Instant) (ok : Bool) :
    (m.settle id up now ok).2.Reachable := by
  have hcall := h.call (.apply id up now)
  rw [Registry.call] at hcall
  rw [Monitor.settle]
  split
  · next registry happly =>
    rw [happly] at hcall
    exact hcall _
  · next registry transition happly =>
    rw [happly] at hcall
    exact hcall _

theorem Reachable.on (h : m.Reachable) (happening : Happening) : (happening.on m).Reachable := by
  by_cases hquiet : (Move.happening happening).probed = none
  · obtain ⟨m', hstep, hm'⟩ := Cycle.step_of_quiet { monitor := m } hquiet
    rw [Happening.on, hstep]
    rcases hm' with rfl | ⟨store, ok, rfl⟩
    · exact h
    · exact h.sync store ok
  · cases happening with
    | probed id outcome now ok =>
      cases outcome with
      | up => exact h.settle id true now ok
      | down => exact h.settle id false now ok
      | died => exact h
    | _ => exact absurd rfl hquiet

end Monitor

/-! ### Steps of a cycle -/

namespace Round

variable {workers : Nat} {r r' : Round} {b : RoundMove}

/-- What a round does itself before it has probes. -/
theorem Step.cases_of_isEarly (h : Step workers r b r') (hearly : r.stage.isEarly)
    (htasks : r.tasks = []) (hown : b.isOwn) :
    (∃ ok, b = .listed ok ∧ r.stage = .listing ∧
      r' = { r with stage := .adopting (r.monitor.listing ok) }) ∨
    (∃ definitions, b = .adopted ∧ r.stage = .adopting definitions ∧
      r' = { r with monitor := r.monitor.adopt definitions, stage := .reading }) ∨
    (b = .read ∧ r.stage = .reading ∧ ∃ w,
      r' = { r with stage := .probing w r.monitor.registry.identities }) := by
  have hnone : ∀ {i : Nat} {t : ProbeTask}, r.tasks[i]? ≠ some t := by simp [htasks]
  cases h with
  | listed hlisting ok => exact .inl ⟨ok, rfl, hlisting, rfl⟩
  | adopted hadopting => exact .inr (.inl ⟨_, rfl, hadopting, rfl⟩)
  | read hreading => exact .inr (.inr ⟨rfl, hreading, _, rfl⟩)
  | launched hprobing hbusy => simp [hprobing, RoundStage.isEarly] at hearly
  | handed hprobing hcollected => simp [hprobing, RoundStage.isEarly] at hearly
  | died htask
  | discarded htask _
  | applied htask _
  | recorded htask _
  | collected _ htask => exact absurd htask hnone
  | cancelled hprobing => cases hown
  | stored store => cases hown
  | replaced definitions => cases hown

private theorem targets_of_set {i : Nat} {id : Identity} {stage stage' : ProbeStage}
    (h : r.tasks[i]? = some ⟨id, stage⟩) (htasks : r'.tasks = r.tasks.set i ⟨id, stage'⟩)
    (hstage : r'.stage = r.stage) : r'.launched ++ r'.waiting = r.launched ++ r.waiting := by
  have hmap : (r.tasks.set i ⟨id, stage'⟩).map ProbeTask.identity = r.launched :=
    set_eq_self_of_map h rfl
  rw [launched, htasks, hmap, waiting, hstage]
  rfl

/-- **No target is lost** by what a round does itself once the targets have been read. -/
theorem Step.targets_eq (h : Step workers r b r') (hlate : r.stage.isEarly = false)
    (hown : b.isOwn) : r'.launched ++ r'.waiting = r.launched ++ r.waiting := by
  cases h with
  | listed hlisting ok => simp [hlisting, RoundStage.isEarly] at hlate
  | adopted hadopting => simp [hadopting, RoundStage.isEarly] at hlate
  | read hreading => simp [hreading, RoundStage.isEarly] at hlate
  | launched hprobing hbusy => simp [Round.launched, waiting, hprobing]
  | handed hprobing hcollected => simp [Round.launched, waiting, hprobing]
  | died htask
  | discarded htask _
  | applied htask _
  | recorded htask _
  | collected _ htask => exact targets_of_set htask rfl rfl
  | cancelled hprobing => cases hown
  | stored store => cases hown
  | replaced definitions => cases hown

/-- What a round does itself leaves the catalog alone. -/
theorem Step.catalog_eq (h : Step workers r b r') (hown : b.isOwn) :
    r'.monitor.store.catalog = r.monitor.store.catalog := by
  cases h with
  | @adopted definitions hadopting => cases definitions <;> rfl
  | recorded htask ok => cases ok <;> rfl
  | stored store => cases hown
  | _ => rfl

/-- **Once the targets have been read** the registry changes by the results that come back only, and
answers them. -/
theorem Step.answers (h : Step workers r b r') (hlate : r.stage.isEarly = false) (hown : b.isOwn) :
    r'.monitor.registry =
        r.monitor.registry.takeAll ((r.end? b).toList.filterMap ProbeEnd.returned?) ∧
      (r.end? b).toList.filterMap ProbeEnd.answer? =
        r.monitor.registry.answers ((r.end? b).toList.filterMap ProbeEnd.returned?) := by
  cases h with
  | adopted hadopting => simp [hadopting, RoundStage.isEarly] at hlate
  | died htask
  | discarded htask _
  | applied htask _ =>
    rw [end?, htask]
    exact ⟨rfl, rfl⟩
  | replaced definitions => cases hown
  | _ => exact ⟨rfl, rfl⟩

end Round

namespace Assignment

variable {a : Assignment} {m m' : Monitor} {workers : Nat} {r r' : Round} {b : RoundMove}
  {es : List ProbeEnd}

theorem isOwn_of_permits (h : a.permits r b = true) : b.isOwn := by
  cases b <;> first | rfl | cases h

/-- A probe that ends brings what is given. -/
theorem returned?_of_permits (h : a.permits r b = true) {e : ProbeEnd} (he : r.end? b = some e) :
    e.returned? = a.result? e.identity := by
  cases b with
  | died i =>
    obtain ⟨t, ht, rfl⟩ := Option.map_eq_some_iff.mp he
    have hreport : a.report t.identity = none := by simpa [permits, ht] using h
    simp [ProbeEnd.returned?, ProbeEnd.identity, result?, hreport]
  | returned i up now =>
    obtain ⟨t, ht, rfl⟩ := Option.map_eq_some_iff.mp he
    have hreport : a.report t.identity = some (up, now) := by simpa [permits, ht] using h
    simp [ProbeEnd.returned?, ProbeEnd.identity, result?, hreport]
  | _ => cases he

/-- How far the cycle `a` of the monitor `m` has come, and the ends of its probes so far. -/
inductive Underway (a : Assignment) (m : Monitor) : List ProbeEnd → Round → Prop
  /-- The catalog is to be listed. -/
  | listing {r : Round} (hstage : r.stage = .listing) (htasks : r.tasks = [])
      (hmonitor : r.monitor = a.begin m) : Underway a m [] r
  /-- The listing is to be adopted. -/
  | adopting {r : Round} (hstage : r.stage = .adopting ((a.begin m).listing a.listing))
      (htasks : r.tasks = []) (hmonitor : r.monitor = a.begin m) : Underway a m [] r
  /-- The targets are to be read. -/
  | reading {r : Round} (hstage : r.stage = .reading) (htasks : r.tasks = [])
      (hmonitor : r.monitor = a.opened m) : Underway a m [] r
  /-- They have been read, and some results have come back. -/
  | probing {es : List ProbeEnd} {r : Round} (hstage : r.stage.isEarly = false)
      (htargets : r.launched ++ r.waiting = (a.opened m).registry.identities)
      (hregistry : r.monitor.registry =
        (a.opened m).registry.takeAll (es.filterMap ProbeEnd.returned?))
      (hcatalog : r.monitor.store.catalog = (a.opened m).store.catalog)
      (hanswers : es.filterMap ProbeEnd.answer? =
        (a.opened m).registry.answers (es.filterMap ProbeEnd.returned?))
      (hreturned : ∀ e ∈ es, e.returned? = a.result? e.identity) : Underway a m es r

/-- **A step of a cycle** takes it further. -/
theorem Underway.step (h : Underway a m es r) (hstep : Round.Step workers r b r')
    (hpermits : a.permits r b = true) : Underway a m (es ++ (r.end? b).toList) r' := by
  have hown := isOwn_of_permits hpermits
  -- until the targets are read there are no probes, and every stage has one move only
  cases h with
  | listing hstage htasks hmonitor =>
    obtain ⟨ok, rfl, -, rfl⟩ | ⟨_, -, hne, -⟩ | ⟨-, hne, -⟩ :=
      hstep.cases_of_isEarly (by rw [hstage]; rfl) htasks hown
    · have hok : ok = a.listing := by simpa [permits] using hpermits
      exact .adopting (by rw [hmonitor, hok]) htasks hmonitor
    · cases hstage.symm.trans hne
    · cases hstage.symm.trans hne
  | adopting hstage htasks hmonitor =>
    obtain ⟨_, -, hne, -⟩ | ⟨definitions, rfl, heq, rfl⟩ | ⟨-, hne, -⟩ :=
      hstep.cases_of_isEarly (by rw [hstage]; rfl) htasks hown
    · cases hstage.symm.trans hne
    · cases hstage.symm.trans heq
      exact .reading rfl htasks (by rw [hmonitor]; rfl)
    · cases hstage.symm.trans hne
  | reading hstage htasks hmonitor =>
    obtain ⟨_, -, hne, -⟩ | ⟨_, -, hne, -⟩ | ⟨rfl, -, w, rfl⟩ :=
      hstep.cases_of_isEarly (by rw [hstage]; rfl) htasks hown
    · cases hstage.symm.trans hne
    · cases hstage.symm.trans hne
    · exact .probing rfl (by simp [Round.launched, Round.waiting, htasks, hmonitor])
        (by rw [hmonitor]; rfl) (by rw [hmonitor]) rfl fun e he => by cases he
  | probing hstage htargets hregistry hcatalog hanswers hreturned =>
    obtain ⟨hnext, hanswer⟩ := hstep.answers hstage hown
    refine .probing (hstep.not_isEarly hstage).1 ?_ ?_ ?_ ?_ ?_
    · rw [hstep.targets_eq hstage hown, htargets]
    · rw [hnext, hregistry, List.filterMap_append, Registry.takeAll_append]
    · rw [hstep.catalog_eq hown, hcatalog]
    · rw [List.filterMap_append, hanswers, hanswer, hregistry, List.filterMap_append,
        Registry.answers_append]
    · intro e he
      rcases List.mem_append.mp he with he | he
      · exact hreturned e he
      · exact returned?_of_permits hpermits (Option.mem_toList.mp he)

/-- **A cycle that keeps to what is given** is a round, and has come as far as its moves take it. -/
theorem Underway.run {moves : List RoundMove} (h : Underway a m es r)
    (hrun : moves.foldlM (a.step? workers) r = some r') :
    r.runFrom? workers moves = some r' ∧ Underway a m (es ++ Round.ends workers r moves) r' := by
  induction moves generalizing r es with
  | nil =>
    cases hrun
    exact ⟨rfl, by rwa [Round.ends, List.append_nil]⟩
  | cons b moves ih =>
    obtain ⟨q, hq, hrest⟩ := Option.bind_eq_some_iff.mp hrun
    rw [step?] at hq
    split at hq
    · next hpermits =>
      obtain ⟨hrun', hunderway⟩ := ih (h.step (.of_step? hq) hpermits) hrest
      refine ⟨Option.bind_eq_some_iff.mpr ⟨q, hq, hrun'⟩, ?_⟩
      rwa [Round.ends, hq, ← List.append_assoc]
    · cases hq

/-! ### What comes of a cycle -/

/-- What comes of the cycle `a` of the monitor `m`: all targets are probed, and the registry, the
rows and the events are those that the results lead to when they come back in the order of the
targets. -/
structure Settles (a : Assignment) (m : Monitor) (r : Round) : Prop where
  launched_eq : r.launched = (a.opened m).registry.identities
  registry_eq : r.monitor.registry = (a.opened m).registry.takeAll (a.results m)
  catalog_eq : r.monitor.store.catalog = (a.opened m).store.catalog
  rows_perm : (r.attempts.map Attempt.result).Perm
    (Registry.rows ((a.opened m).registry.answers (a.results m)))
  events_perm : r.events.Perm (Registry.events ((a.opened m).registry.answers (a.results m)))
  batches_eq : r.batches = [r.events]

theorem reachable_begin (a : Assignment) (h : m.Reachable) : (a.begin m).Reachable :=
  List.foldlRecOn (motive := Monitor.Reachable) a.before _ h fun _ h happening _ => h.on happening

theorem reachable_opened (a : Assignment) (h : m.Reachable) : (a.opened m).Reachable :=
  (a.reachable_begin h).sync _ _

theorem identity_of_result? {id id' : Identity}
    (h : id' ∈ (a.result? id).map ProbeResult.identity) : id = id' := by
  obtain ⟨x, hx, rfl⟩ := Option.map_eq_some_iff.mp h
  obtain ⟨_, -, rfl⟩ := Option.map_eq_some_iff.mp hx
  rfl

/-- The targets of the results are all different. -/
theorem nodup_results (h : m.Reachable) : ((a.results m).map ProbeResult.identity).Nodup := by
  obtain ⟨calls, heq⟩ := a.reachable_opened h
  have hnodup : (a.opened m).registry.identities.Nodup := by
    rw [heq]
    exact .of_map _ (Registry.sorted_after calls).nodup_names
  rw [results, List.map_filterMap]
  -- each result is one of the target that it has been found for
  refine hnodup.filterMap fun id id' x hx hx' => ?_
  rw [identity_of_result? hx, identity_of_result? hx']

/-- Once all targets have been probed, the results have come back in some order. -/
theorem Underway.results_perm (h : Underway a m es r)
    (hends : (es.map ProbeEnd.identity).Perm (a.opened m).registry.identities) :
    (es.filterMap ProbeEnd.returned?).Perm (a.results m) := by
  have hreturned : ∀ e ∈ es, e.returned? = a.result? e.identity := by
    cases h with
    | probing _ _ _ _ _ hreturned => exact hreturned
    | _ => exact fun e he => absurd he List.not_mem_nil
  have hmap : es.filterMap ProbeEnd.returned? = (es.map ProbeEnd.identity).filterMap a.result? := by
    rw [List.filterMap_map]
    exact List.filterMap_congr hreturned
  rw [hmap, results]
  exact hends.filterMap _

/-- **What comes of a cycle is settled**, whatever its schedule. -/
theorem settles_round (h : m.Reachable) {s : Schedule} (hround : a.round? m s = some r) :
    a.Settles m r := by
  obtain ⟨hrun, hstage⟩ := Option.filter_eq_some_iff.mp hround
  have hfinished : r.stage = .finished := by simpa using hstage
  obtain ⟨hrun, hunderway⟩ := (Underway.listing rfl rfl rfl).run hrun
  have hbatches := (Round.concluded_run hrun).batches_eq
  obtain ⟨hends, hrows, hevents⟩ := Round.gained_of_run hrun hfinished
  rw [ProbeEnd.filterMap_result?] at hrows
  rw [ProbeEnd.filterMap_event?] at hevents
  rw [List.nil_append] at hunderway
  have hresults := hunderway.results_perm
  generalize Round.ends s.workers { monitor := a.begin m } s.moves = es at *
  cases hunderway with
  | listing hlisting => cases hlisting.symm.trans hfinished
  | adopting hadopting => cases hadopting.symm.trans hfinished
  | reading hreading => cases hreading.symm.trans hfinished
  | probing hstage htargets hregistry hcatalog hanswers hreturned =>
    have hlaunched : r.launched = (a.opened m).registry.identities := by
      rw [← htargets, Round.waiting, hfinished, List.append_nil]
    have hperm := hresults (hlaunched ▸ hends)
    have hd := (hperm.map ProbeResult.identity).nodup_iff.mpr (nodup_results h)
    have halike := Registry.takesAlike_of_perm (a.reachable_opened h).indexed hperm hd
    rw [hanswers] at hrows hevents
    refine ⟨hlaunched, ?_, hcatalog, hrows.trans halike.rows_perm,
      hevents.trans halike.events_perm, ?_⟩
    · rw [hregistry, halike.takeAll_eq]
    · rw [hbatches, if_pos hfinished]

/-! ### Two schedules -/

theorem begin_congr (a : Assignment) (h : m.unlogged = m'.unlogged) :
    (a.begin m).unlogged = (a.begin m').unlogged := by
  rw [begin, begin]
  induction a.before generalizing m m' with
  | nil => exact h
  | cons happening before ih => exact ih (happening.on_congr h)

/-- A cycle begins alike on two monitors that differ in their logs only. -/
theorem opened_congr (a : Assignment) (h : m.unlogged = m'.unlogged) :
    (a.opened m).unlogged = (a.opened m').unlogged :=
  Monitor.sync_congr (a.begin_congr h) _

theorem Settles.reachable (hsettles : a.Settles m r) (h : m.Reachable) : r.monitor.Reachable := by
  have hnext := (a.reachable_opened h).takeAll (a.results m) r.monitor.store
  rwa [← hsettles.registry_eq] at hnext

end Assignment

/-- Two rounds come to the same: to the same registry, and in some order to the same rows and to the
same events, which are handed over in one batch. -/
structure Round.Alike (r r' : Round) : Prop where
  launched_eq : r.launched = r'.launched
  registry_eq : r.monitor.registry = r'.monitor.registry
  rows_perm : (r.attempts.map Attempt.result).Perm (r'.attempts.map Attempt.result)
  events_perm : r.events.Perm r'.events
  batches_eq : r.batches = [r.events]
  batches_eq' : r'.batches = [r'.events]

section

variable {a : Assignment} {m m' : Monitor} {r r' : Round}

/-- **A cycle comes to the same** on two monitors that differ in their logs only, and these differ
in their logs only again. -/
theorem Assignment.Settles.alike (h : a.Settles m r) (h' : a.Settles m' r')
    (hm : m.unlogged = m'.unlogged) : r.Alike r' ∧ r.monitor.unlogged = r'.monitor.unlogged := by
  obtain ⟨hregistry, hcatalog⟩ := Monitor.unlogged_eq_iff.mp (a.opened_congr hm)
  have hresults : a.results m = a.results m' := by
    rw [Assignment.results, Assignment.results, hregistry]
  have hnext : r.monitor.registry = r'.monitor.registry := by
    rw [h.registry_eq, h'.registry_eq, hregistry, hresults]
  have hrows := h.rows_perm
  have hevents := h.events_perm
  rw [hregistry, hresults] at hrows hevents
  refine ⟨⟨?_, hnext, hrows.trans h'.rows_perm.symm, hevents.trans h'.events_perm.symm,
    h.batches_eq, h'.batches_eq⟩, Monitor.unlogged_eq_iff.mpr ⟨hnext, ?_⟩⟩
  · rw [h.launched_eq, h'.launched_eq, hregistry]
  · rw [h.catalog_eq, h'.catalog_eq, hcatalog]

theorem rounds?_cons {as : List Assignment} {ss : List Schedule} {rs : List Round}
    (h : rounds? m (a :: as) ss = some rs) : ∃ s ss' r rs',
      ss = s :: ss' ∧ rs = r :: rs' ∧ a.round? m s = some r ∧
        rounds? r.monitor as ss' = some rs' := by
  cases ss with
  | nil => cases h
  | cons s ss =>
    obtain ⟨r, hr, hrest⟩ := Option.bind_eq_some_iff.mp h
    obtain ⟨rs', hrs', heq⟩ := Option.bind_eq_some_iff.mp hrest
    cases heq
    exact ⟨s, ss, r, rs', rfl, rfl, hr, hrs'⟩

/-- Some cycles come to the same, one after the other. -/
theorem forall₂_alike {as : List Assignment} {ss ss' : List Schedule} {rs rs' : List Round}
    (h : m.Reachable) (h' : m'.Reachable) (hm : m.unlogged = m'.unlogged)
    (hrs : rounds? m as ss = some rs) (hrs' : rounds? m' as ss' = some rs') :
    List.Forall₂ Round.Alike rs rs' := by
  induction as generalizing m m' ss ss' rs rs' with
  | nil =>
    cases ss <;> cases ss' <;> cases hrs <;> cases hrs'
    exact .nil
  | cons a as ih =>
    obtain ⟨s, ss, r, rs, rfl, rfl, hr, hrest⟩ := rounds?_cons hrs
    obtain ⟨s', ss', r', rs', rfl, rfl, hr', hrest'⟩ := rounds?_cons hrs'
    have hsettles := Assignment.settles_round h hr
    have hsettles' := Assignment.settles_round h' hr'
    -- the logs may differ from now on, since rows are recorded in different orders
    obtain ⟨halike, hnext⟩ := hsettles.alike hsettles' hm
    exact .cons halike (ih (hsettles.reachable h) (hsettles'.reachable h') hnext hrest hrest')

end

/-- **The order in which results come back does not matter.** Whatever a registry has been through,
the same results for different targets come to the same in any order: each of them means what it
means by itself, and the registry is the same in the end. So cycles with the same results come to
the same by any two schedules. -/
theorem schedules_alike (calls : List RegistryCall) :
    (∀ xs ys : List ProbeResult, xs.Perm ys → (xs.map ProbeResult.identity).Nodup →
      (Registry.after calls).TakesAlike xs ys) ∧
    ∀ (store : Store) (as : List Assignment) (ss ss' : List Schedule) (rs rs' : List Round),
      rounds? ⟨Registry.after calls, store⟩ as ss = some rs →
      rounds? ⟨Registry.after calls, store⟩ as ss' = some rs' →
      List.Forall₂ Round.Alike rs rs' := by
  refine ⟨fun xs ys hperm hd => ?_, fun store as ss ss' rs rs' hrs hrs' => ?_⟩
  · exact Registry.takesAlike_of_perm (Registry.indexed_after calls) hperm hd
  · exact forall₂_alike ⟨calls, rfl⟩ ⟨calls, rfl⟩ rfl hrs hrs'

/-- Two results and one that is ignored, because its target has another address, in two orders. Then
two cycles of three targets, each by two schedules: in the first cycle the probe of one target dies,
and the results of the others come back in one order and in the other; before the second cycle one
of them is moved to another address. -/
theorem schedules_alike_two_cycles :
    let calls : List RegistryCall :=
      [.replace [⟨"web", "a", 80, true⟩, ⟨"db", "a", 5432, true⟩],
       .apply ⟨"web", "a", 80⟩ true (.atMillis 0)]
    let store : Store :=
      ⟨⟨[⟨"web", "a", 80, true⟩, ⟨"mail", "a", 25, true⟩, ⟨"db", "a", 5432, true⟩]⟩, {}⟩
    let web : ProbeResult := ⟨⟨"web", "a", 80⟩, false, .atMillis 7⟩
    let db : ProbeResult := ⟨⟨"db", "a", 5432⟩, false, .atMillis 9⟩
    let old : ProbeResult := ⟨⟨"web", "b", 80⟩, true, .atMillis 8⟩
    let as : List Assignment :=
      [{ report := fun id => if id.name = "mail" then none else some (false, .atMillis 7) },
       { before := [.upserted "web" "b" 80 (.ok ()) true]
         report := fun _ => some (true, .atMillis 9) }]
    let opening (moves : List RoundMove) : List RoundMove :=
      .listed true :: .adopted :: .read :: moves
    let ss : List Schedule :=
      [⟨2, opening [.launched, .launched, .returned 0 false (.atMillis 7), .recorded 0 true,
          .launched, .returned 2 false (.atMillis 7), .died 1, .recorded 2 true, .collected 0,
          .collected 2, .collected 1, .handed]⟩,
       ⟨3, opening [.launched, .launched, .launched, .returned 2 true (.atMillis 9),
          .returned 0 true (.atMillis 9), .recorded 0 true, .returned 1 true (.atMillis 9),
          .recorded 1 true, .recorded 2 true, .collected 0, .collected 1, .collected 2, .handed]⟩]
    let ss' : List Schedule :=
      [⟨3, opening [.launched, .launched, .launched, .returned 2 false (.atMillis 7), .died 1,
          .returned 0 false (.atMillis 7), .recorded 0 true, .recorded 2 false, .collected 2,
          .collected 1, .collected 0, .handed]⟩,
       ⟨1, opening [.launched, .returned 0 true (.atMillis 9), .recorded 0 false, .launched,
          .returned 1 true (.atMillis 9), .recorded 1 true, .launched,
          .returned 2 true (.atMillis 9), .recorded 2 true, .collected 0, .collected 1,
          .collected 2, .handed]⟩]
    (Registry.after calls).TakesAlike [web, db, old] [old, web, db] ∧
    ∃ rs rs', rounds? ⟨Registry.after calls, store⟩ as ss = some rs ∧
      rounds? ⟨Registry.after calls, store⟩ as ss' = some rs' ∧
      rs.map (fun r => r.events.map Event.target) = [["db", "web"], ["db"]] ∧
      rs'.map (fun r => r.events.map Event.target) = [["web", "db"], ["db"]] ∧
      List.Forall₂ Round.Alike rs rs' := by
  intro calls store web db old as opening ss ss'
  have hperm : [web, db, old].Perm [old, web, db] := by decide
  have htakes := (schedules_alike calls).1 _ _ hperm (by decide)
  have hrun : (rounds? ⟨Registry.after calls, store⟩ as ss).map
      (List.map fun r => r.events.map Event.target) = some [["db", "web"], ["db"]] := by
    decide +kernel
  have hrun' : (rounds? ⟨Registry.after calls, store⟩ as ss').map
      (List.map fun r => r.events.map Event.target) = some [["web", "db"], ["db"]] := by
    decide +kernel
  obtain ⟨rs, hrs, heq⟩ := Option.map_eq_some_iff.mp hrun
  obtain ⟨rs', hrs', heq'⟩ := Option.map_eq_some_iff.mp hrun'
  exact ⟨htakes, rs, rs', hrs, hrs', heq, heq',
    (schedules_alike calls).2 store as ss ss' rs rs' hrs hrs'⟩

end Uptime

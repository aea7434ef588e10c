import Uptime.Proofs.Registry.Epoch
import Uptime.Proofs.Round.Schedule

/-!
# Rounds that are cut short

A round that is cancelled launches no more probes. Those that it has launched are brought to their
ends all the same, and all that comes of them is recorded and handed over; the targets that it has
not come to are left alone. Both go for every round, cancelled or not, whatever others do meanwhile.

## Main definitions

* `Round.isDecided`: it has been decided of all targets whether they are wanted.
* `Round.Confined`: what comes of a round is about targets whose probes it has launched.
* `Round.Thorough`: what becomes of the targets of a round that may have been cut short.

## Main results

* `Round.Step.launched_eq`, `Round.Step.exists_waiting_eq`: what a step launches.
* `Round.Step.waiting_eq`: which targets are still waiting after a step.
* `Round.Step.get?_eq`: what a step leaves alone.
* `Round.thorough_run`: every round is thorough.
-/

namespace Uptime

/-! ### What an end is about -/

namespace ProbeEnd

variable {e : ProbeEnd}

theorem identity_of_returned? {x : ProbeResult} (h : e.returned? = some x) :
    x.identity = e.identity := by
  cases e with
  | died id => cases h
  | returned id up now transition => exact congrArg ProbeResult.identity (Option.some.inj h).symm

theorem identity_of_result? {result : CheckResult} (h : e.result? = some result) :
    result.identity = e.identity := by
  cases e with
  | died id => cases h
  | returned id up now transition =>
    obtain ⟨t, -, rfl⟩ := Option.map_eq_some_iff.mp h
    rfl

end ProbeEnd

namespace Round

section

variable {workers : Nat} {m : Monitor} {r r' : Round} {a : RoundMove} {moves : List RoundMove}
  {e : ProbeEnd}

/-- Only probes that were launched end. -/
theorem mem_launched_of_end? (h : r.end? a = some e) : e.identity ∈ r.launched := by
  cases a with
  | died i =>
    obtain ⟨t, ht, rfl⟩ := Option.map_eq_some_iff.mp h
    exact List.mem_map_of_mem (List.mem_of_getElem? ht)
  | returned i up now =>
    obtain ⟨t, ht, rfl⟩ := Option.map_eq_some_iff.mp h
    exact List.mem_map_of_mem (List.mem_of_getElem? ht)
  | _ => cases h

/-- The event that is raised by the end of a probe is about its target. -/
theorem target_of_end? (h : r.end? a = some e) {event : Event} (hevent : e.event? = some event) :
    event.target = e.identity.name := by
  cases a with
  | died i =>
    obtain ⟨t, -, rfl⟩ := Option.map_eq_some_iff.mp h
    cases hevent
  | returned i up now =>
    obtain ⟨t, -, rfl⟩ := Option.map_eq_some_iff.mp h
    obtain ⟨transition, happly, hevent⟩ := Option.bind_eq_some_iff.mp hevent
    exact (Registry.of_apply_eq_event happly hevent).1
  | _ => cases h

/-! ### What a step launches -/

theorem Step.launched_eq (h : Step workers r a r') (ha : a ≠ .launched) :
    r'.launched = r.launched := by
  cases h with
  | launched hprobing hbusy => exact absurd rfl ha
  | died htask
  | discarded htask _
  | applied htask _
  | recorded htask _
  | collected _ htask => exact set_eq_self_of_map htask rfl
  | _ => rfl

/-- The first of the targets that are waiting is launched. -/
theorem Step.exists_waiting_eq (h : Step workers r .launched r') :
    ∃ id, r.waiting = id :: r'.waiting ∧ r'.launched = r.launched ++ [id] := by
  cases h with
  | @launched free id ids hprobing hbusy =>
    exact ⟨id, by rw [waiting, hprobing]; rfl, by simp [Round.launched]⟩

/-- **What has been launched stays launched.** -/
theorem Step.prefix_launched (h : Step workers r a r') : r.launched <+: r'.launched := by
  by_cases ha : a = .launched
  · subst ha
    obtain ⟨id, -, hlaunched⟩ := h.exists_waiting_eq
    rw [hlaunched]
    exact List.prefix_append _ _
  · exact h.launched_eq ha ▸ List.prefix_refl _

theorem prefix_launched_of_runFrom? (h : runFrom? workers r moves = some r') :
    r.launched <+: r'.launched :=
  runFrom?_induction (P := fun q => r.launched <+: q.launched) (List.prefix_refl _)
    (fun hq hstep => hq.trans hstep.prefix_launched) h

/-! ### Targets that are waiting -/

theorem exists_stage_of_waiting (h : r.waiting ≠ []) :
    ∃ free id ids, r.stage = .probing free (id :: ids) := by
  cases hstage : r.stage with
  | probing free ids =>
    cases ids with
    | nil => simp [waiting, hstage] at h
    | cons id ids => exact ⟨free, id, ids, rfl⟩
  | _ => simp [waiting, hstage] at h

/-- When a round is over no target is waiting. -/
theorem waiting_of_finished (h : r.stage = .finished) : r.waiting = [] := by
  rw [waiting, h]

/-- The targets that are waiting stay, unless one of them is launched or all are given up. -/
theorem Step.waiting_eq (h : Step workers r a r') (ha : a ≠ .launched) (ha' : a ≠ .cancelled)
    (hwaiting : r.waiting ≠ []) : r'.waiting = r.waiting := by
  cases h with
  | listed hlisting succeeds => simp [waiting, hlisting] at hwaiting
  | adopted hadopting => simp [waiting, hadopting] at hwaiting
  | read hreading => simp [waiting, hreading] at hwaiting
  | launched hprobing hbusy => exact absurd rfl ha
  | handed hprobing hcollected => simp [waiting, hprobing] at hwaiting
  | cancelled hprobing => exact absurd rfl ha'
  | _ => rfl

/-- Targets that are waiting can be given up. -/
theorem exists_step?_cancelled (h : r.waiting ≠ []) (workers : Nat) :
    ∃ r', r.step? workers .cancelled = some r' := by
  obtain ⟨free, id, ids, hstage⟩ := exists_stage_of_waiting h
  exact ⟨{ r with stage := .probing free [] }, by simp [step?, hstage]⟩

/-- Whether it has been decided of all targets whether they are wanted. -/
def isDecided (r : Round) : Bool :=
  match r.stage with
  | .probing _ [] => true
  | .finished => true
  | _ => false

theorem Step.isDecided (h : Step workers r a r') (hdecided : r.isDecided = true) :
    r'.isDecided = true := by
  cases h with
  | listed hlisting succeeds => simp [Round.isDecided, hlisting] at hdecided
  | adopted hadopting => simp [Round.isDecided, hadopting] at hdecided
  | read hreading => simp [Round.isDecided, hreading] at hdecided
  | launched hprobing hbusy => simp [Round.isDecided, hprobing] at hdecided
  | handed hprobing hcollected => rfl
  | cancelled hprobing => rfl
  | _ => exact hdecided

theorem Step.isDecided_of_cancelled (h : Step workers r .cancelled r') : r'.isDecided = true := by
  cases h with
  | cancelled hprobing => rfl

theorem isDecided_of_finished (h : r.stage = .finished) : r.isDecided = true := by
  simp [isDecided, h]

theorem isDecided_of_waiting (h : r.waiting ≠ []) : r.isDecided = false := by
  obtain ⟨free, id, ids, hstage⟩ := exists_stage_of_waiting h
  rw [isDecided, hstage]

/-! ### Rounds that are over -/

/-- A round that is over stays over. -/
theorem Step.stage_of_finished (h : Step workers r a r') (hfinished : r.stage = .finished) :
    r'.stage = .finished := by
  by_cases ha : a = .handed
  · subst ha
    cases h with
    | handed hprobing hcollected => rfl
  · exact (h.stage_eq_finished_iff ha).mpr hfinished

/-- A round that is over has taken all its steps. -/
theorem Concluded.rank_eq (h : r.Concluded) (hfinished : r.stage = .finished) :
    r.rank = 4 + 4 * r.launched.length := by
  have hranks : r.tasks.map (fun t => t.stage.rank) = r.tasks.map fun _ => 4 :=
    List.map_congr_left fun t ht => by rw [h.collected hfinished t ht]; rfl
  rw [rank, hfinished, hranks, List.map_const', List.sum_replicate_nat, launched, List.length_map,
    Nat.mul_comm]
  rfl

/-! ### What a step leaves alone -/

/-- **A round leaves the targets alone that it has not come to**: once they have been read, what it
does itself changes no other states than those of targets whose probes it has launched. -/
theorem Step.get?_eq (h : Step workers r a r') (horder : r.Orderly)
    (hlate : r.stage.isEarly = false) (hown : a.isOwn) {name : String}
    (hname : name ∉ r.launched.map Identity.name) :
    r'.monitor.registry.get? name = r.monitor.registry.get? name := by
  rw [(h.answers hlate hown).1]
  refine Registry.get?_takeAll_of_notMem horder.indexed fun hmem => hname ?_
  obtain ⟨x, hx, rfl⟩ := List.mem_map.mp hmem
  obtain ⟨e, he, hreturned⟩ := List.mem_filterMap.mp hx
  rw [ProbeEnd.identity_of_returned? hreturned]
  exact List.mem_map_of_mem (mem_launched_of_end? (Option.mem_toList.mp he))

/-- All results and events of a round are about targets whose probes it has launched. -/
structure Confined (r : Round) : Prop where
  mem_results : ∀ result ∈ r.results, result.identity ∈ r.launched
  mem_news : ∀ event ∈ r.news, event.target ∈ r.launched.map Identity.name

theorem confined_begin (m : Monitor) : Confined { monitor := m } where
  mem_results _ h := by cases h
  mem_news _ h := by cases h

theorem Confined.step (h : r.Confined) (hstep : Step workers r a r') : r'.Confined where
  mem_results result hresult := by
    rw [hstep.gains.results_perm.mem_iff, List.mem_append] at hresult
    refine hstep.prefix_launched.subset ?_
    rcases hresult with hresult | hresult
    · exact h.mem_results result hresult
    · obtain ⟨e, he, hresult⟩ := List.mem_filterMap.mp hresult
      rw [ProbeEnd.identity_of_result? hresult]
      exact mem_launched_of_end? (Option.mem_toList.mp he)
  mem_news event hevent := by
    rw [hstep.gains.news_perm.mem_iff, List.mem_append] at hevent
    refine (hstep.prefix_launched.map Identity.name).subset ?_
    rcases hevent with hevent | hevent
    · exact h.mem_news event hevent
    · obtain ⟨e, he, hevent⟩ := List.mem_filterMap.mp hevent
      rw [target_of_end? (Option.mem_toList.mp he) hevent]
      exact List.mem_map_of_mem (mem_launched_of_end? (Option.mem_toList.mp he))

theorem confined_run (h : run? workers m moves = some r) : r.Confined :=
  runFrom?_induction (P := Confined) (confined_begin m) .step h

theorem Confined.name_ne_of_mem_attempts (h : r.Confined) {name : String}
    (hname : name ∉ r.launched.map Identity.name) {attempt : Attempt}
    (hattempt : attempt ∈ r.attempts) : attempt.result.identity.name ≠ name := by
  have hresult : attempt.result ∈ r.results :=
    List.mem_append_left _ (List.mem_map_of_mem hattempt)
  rintro rfl
  exact hname (List.mem_map_of_mem (h.mem_results _ hresult))

theorem Confined.target_ne_of_mem_batches (h : r.Confined) (hconcluded : r.Concluded)
    {name : String} (hname : name ∉ r.launched.map Identity.name) {batch : List Event}
    (hbatch : batch ∈ r.batches) {event : Event} (hevent : event ∈ batch) :
    event.target ≠ name := by
  rw [hconcluded.batches_eq] at hbatch
  split at hbatch
  · rw [List.mem_singleton.mp hbatch] at hevent
    rintro rfl
    exact hname (h.mem_news _ (List.mem_append_left _ hevent))
  · cases hbatch

/-! ### What is applied -/

/-- **What is applied is taken over** by its target, and by no other one. -/
theorem Step.applies (h : Step workers r a r') (horder : r.Orderly) {id : Identity} {up : Bool}
    {now : Instant} {transition : Transition}
    (he : r.end? a = some (.returned id up now (some transition))) :
    r.monitor.registry.Applies id up now r'.monitor.registry transition := by
  cases h.fits horder he with
  | applied hid happly hstore =>
    have happlies := Registry.applies_of_apply horder.indexed (congrArg Prod.snd happly)
    rwa [happly] at happlies

/-! ### Thorough rounds -/

/-- What becomes of the targets of the round `r` of the monitor `m` after some moves, whether or not
it has been cut short. -/
structure Thorough (workers : Nat) (m : Monitor) (moves : List RoundMove) (r : Round) : Prop where
  /-- The targets are read in the order of names, and the probes of the first of them are
  launched. -/
  launched_prefix : ∀ before after q, moves = before ++ .read :: after →
    run? workers m before = some q →
      q.monitor.registry.Sorted ∧ r.launched <+: q.monitor.registry.identities
  /-- Each result is applied if its target is registered. -/
  fits : ∀ before b after q q', moves = before ++ b :: after → run? workers m before = some q →
    q.step? workers b = some q' → ∀ e, q.end? b = some e → e.Fits q q'
  /-- Then the target takes it over, and no other one does. -/
  applies : ∀ before b after q q', moves = before ++ b :: after → run? workers m before = some q →
    q.step? workers b = some q' → ∀ id up now transition,
      q.end? b = some (.returned id up now (some transition)) →
        q.monitor.registry.Applies id up now q'.monitor.registry transition
  /-- When the round is over each probe that was launched has ended once, -/
  ends_perm : r.stage = .finished →
    ((ends workers { monitor := m } moves).map ProbeEnd.identity).Perm r.launched
  /-- each result that was applied has been handed to the check log, -/
  attempts_perm : r.stage = .finished → (r.attempts.map Attempt.result).Perm
    ((ends workers { monitor := m } moves).filterMap ProbeEnd.result?)
  /-- and its event has been handed over, in the one batch that there is. -/
  exists_batch : r.stage = .finished → ∃ batch, r.batches = [batch] ∧
    batch.Perm ((ends workers { monitor := m } moves).filterMap ProbeEnd.event?)
  /-- There is no row and no event about any other target, -/
  unmentioned : ∀ name, name ∉ r.launched.map Identity.name →
    (∀ attempt ∈ r.attempts, attempt.result.identity.name ≠ name) ∧
      ∀ batch ∈ r.batches, ∀ event ∈ batch, event.target ≠ name
  /-- and none of the steps of the round changes its state. -/
  untouched : ∀ before b after q q', moves = before ++ b :: after →
    run? workers m before = some q → q.step? workers b = some q' → b.isOwn →
      q.stage.isEarly = false → ∀ name, name ∉ r.launched.map Identity.name →
        q'.monitor.registry.get? name = q.monitor.registry.get? name

theorem orderly_of_reachable (hm : m.Reachable) (h : run? workers m moves = some r) :
    r.Orderly := by
  obtain ⟨calls, hcalls⟩ := hm
  have hmonitor : m = ⟨Registry.after calls, m.store⟩ := by rw [← hcalls]
  exact orderly_run (hmonitor ▸ h)

/-- A step of a round is followed by others. -/
theorem runFrom?_of_step? {before after : List RoundMove} {q q' : Round}
    (h : runFrom? workers r (before ++ a :: after) = some r')
    (hq : runFrom? workers r before = some q) (hstep : q.step? workers a = some q') :
    runFrom? workers q' after = some r' := by
  obtain ⟨q₁, q₂, hq₁, hstep₁, hrest⟩ := runFrom?_append_cons.mp h
  obtain rfl := Option.some.inj (hq.symm.trans hq₁)
  obtain rfl := Option.some.inj (hstep.symm.trans hstep₁)
  exact hrest

/-- The targets whose probes are launched are the first of those that are read. -/
theorem Orderly.prefix_launched_of_read {before after : List RoundMove} {q : Round}
    (horder : q.Orderly) (h : run? workers m (before ++ .read :: after) = some r)
    (hq : run? workers m before = some q) : r.launched <+: q.monitor.registry.identities := by
  obtain ⟨q₁, q', hq₁, hstep, hrest⟩ := runFrom?_append_cons.mp h
  obtain rfl := Option.some.inj (hq.symm.trans hq₁)
  cases Step.of_step? hstep with
  | read hreading =>
    obtain ⟨htasks, -⟩ := horder.early (by rw [hreading]; rfl)
    exact launched_prefix_of_run rfl (by simp [launched, waiting, htasks]) hrest

/-- **Every round is thorough**, even if it has been cut short. -/
theorem thorough_run (hm : m.Reachable) (h : run? workers m moves = some r) :
    r.Thorough workers m moves where
  launched_prefix before after q hmoves hq := by
    subst hmoves
    have horder := orderly_of_reachable hm hq
    exact ⟨horder.sorted, horder.prefix_launched_of_read h hq⟩
  fits before b after q q' _ hq hstep e he :=
    (Step.of_step? hstep).fits (orderly_of_reachable hm hq) he
  applies before b after q q' _ hq hstep id up now transition he :=
    (Step.of_step? hstep).applies (orderly_of_reachable hm hq) he
  ends_perm hfinished := (gained_of_run h hfinished).1
  attempts_perm hfinished := (gained_of_run h hfinished).2.1
  exists_batch hfinished := by
    refine ⟨r.events, ?_, (gained_of_run h hfinished).2.2⟩
    rw [(concluded_run h).batches_eq, if_pos hfinished]
  unmentioned name hname :=
    ⟨fun _ hattempt => (confined_run h).name_ne_of_mem_attempts hname hattempt,
      fun _ hbatch _ hevent =>
        (confined_run h).target_ne_of_mem_batches (concluded_run h) hname hbatch hevent⟩
  untouched before b after q q' hmoves hq hstep hown hlate name hname := by
    subst hmoves
    have hrest := runFrom?_of_step? h hq hstep
    have hlaunched :=
      (Step.of_step? hstep).prefix_launched.trans (prefix_launched_of_runFrom? hrest)
    exact (Step.of_step? hstep).get?_eq (orderly_of_reachable hm hq) hlate hown
      fun hmem => hname ((hlaunched.map Identity.name).subset hmem)

end

end Round

end Uptime

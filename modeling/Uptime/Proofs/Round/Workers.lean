import Uptime.Proofs.Round.CutShort

/-!
# The workers of a round

A probe takes up a worker from its launch until it has ended. A round has as many workers as it has
been given when its targets were read, and whenever a target is waiting and a worker is not taken,
the next probe can be launched. So none of the targets is left out unless the round is cancelled.

## Main definitions

* `Round.Staffed`: a round keeps to its workers.
* `Round.Diligent`: how a round goes on after its targets have been read.

## Main results

* `Round.Staffed.step`: every step keeps to the workers.
* `Round.Step.launched_append_waiting_eq`: unless a round is cancelled no target is left out.
* `Round.diligent_run`: every round goes on so.
-/

namespace Uptime

namespace Round

/-- A round whose targets have been read keeps to its workers. -/
structure Staffed (workers : Nat) (r : Round) : Prop where
  late : r.stage.isEarly = false
  workers_eq : ∀ free ids, r.stage = .probing free ids → free = workers
  busy_le : r.busy ≤ workers

section

variable {configured workers : Nat} {m : Monitor} {q r r' : Round} {a : RoundMove}
  {before after : List RoundMove}

/-- A probe takes up no more workers at a later stage. -/
theorem countP_isBusy_set_le {i : Nat} {t u : ProbeTask} (h : r.tasks[i]? = some t)
    (hbusy : u.stage.isBusy = true → t.stage.isBusy = true) :
    ((r.tasks.set i u).countP fun t => t.stage.isBusy) ≤ r.busy := by
  obtain ⟨hi, rfl⟩ := List.getElem?_eq_some_iff.mp h
  rw [busy, List.countP_set hi]
  cases hu : u.stage.isBusy with
  | false => simp
  | true =>
    have hpos : 0 < r.tasks.countP fun t => t.stage.isBusy :=
      List.countP_pos_iff.mpr ⟨_, List.getElem_mem hi, hbusy hu⟩
    simp only [hbusy hu, if_true]
    omega

/-- **Every step keeps to the workers.** -/
theorem Staffed.step (h : r.Staffed workers) (hstep : Step configured r a r') :
    r'.Staffed workers := by
  refine ⟨(hstep.not_isEarly h.late).1, ?_, ?_⟩
  · intro free ids hstage
    cases hstep with
    | listed hlisting ok => cases hstage
    | adopted hadopting => cases hstage
    | read hreading =>
      have hlate := h.late
      rw [hreading] at hlate
      cases hlate
    | launched hprobing hbusy =>
      cases hstage
      exact h.workers_eq _ _ hprobing
    | handed hprobing hcollected => cases hstage
    | cancelled hprobing =>
      cases hstage
      exact h.workers_eq _ _ hprobing
    | _ => exact h.workers_eq _ _ hstage
  · cases hstep with
    | launched hprobing hbusy =>
      rw [h.workers_eq _ _ hprobing] at hbusy
      rw [busy, List.countP_append]
      exact hbusy
    | died htask
    | discarded htask _
    | recorded htask _
    | collected _ htask =>
      exact (countP_isBusy_set_le htask (by simp [ProbeStage.isBusy])).trans h.busy_le
    | applied htask _ => exact (countP_isBusy_set_le htask fun _ => rfl).trans h.busy_le
    | _ => exact h.busy_le

/-- A target that is waiting can be launched exactly if a worker is not taken. -/
theorem Staffed.exists_launched_iff (h : r.Staffed workers) (hwaiting : r.waiting ≠ []) :
    (∃ r', r.step? configured .launched = some r') ↔ r.busy < workers := by
  obtain ⟨free, id, ids, hstage⟩ := exists_stage_of_waiting hwaiting
  obtain rfl := h.workers_eq _ _ hstage
  simp only [step?, hstage]
  split
  · next hbusy => simp [hbusy]
  · next hbusy => simp [hbusy]

/-- Once the targets have been read, it is decided of all of them when none is waiting. -/
theorem isDecided_iff (h : r.stage.isEarly = false) : r.isDecided = true ↔ r.waiting = [] := by
  cases hstage : r.stage with
  | probing free ids => cases ids <;> simp [isDecided, waiting, hstage]
  | finished => simp [isDecided, waiting, hstage]
  | _ => rw [hstage] at h; cases h

/-- **Unless a round is cancelled no target is left out.** -/
theorem Step.launched_append_waiting_eq (h : Step configured r a r')
    (hlate : r.stage.isEarly = false) (ha : a ≠ .cancelled) :
    r'.launched ++ r'.waiting = r.launched ++ r.waiting := by
  by_cases hlaunched : a = .launched
  · subst hlaunched
    obtain ⟨id, hwaiting, hlaunched⟩ := h.exists_waiting_eq
    rw [hwaiting, hlaunched, List.append_assoc, List.singleton_append]
  · rw [h.launched_eq hlaunched]
    by_cases hwaiting : r.waiting = []
    · -- it stays decided of all targets whether they are wanted
      have hdecided := h.isDecided ((isDecided_iff hlate).mpr hwaiting)
      rw [hwaiting, (isDecided_iff (h.not_isEarly hlate).1).mp hdecided]
    · rw [h.waiting_eq hlaunched ha hwaiting]

theorem launched_append_waiting_of_runFrom? {moves : List RoundMove}
    (hlate : r.stage.isEarly = false) (hmoves : .cancelled ∉ moves)
    (h : runFrom? configured r moves = some r') :
    r'.launched ++ r'.waiting = r.launched ++ r.waiting := by
  induction moves generalizing r with
  | nil =>
    cases h
    rfl
  | cons a moves ih =>
    obtain ⟨q, hq, hrest⟩ := Option.bind_eq_some_iff.mp h
    obtain ⟨ha, hmoves⟩ := not_or.mp (mt List.mem_cons.mpr hmoves)
    have hstep := Step.of_step? hq
    rw [ih (hstep.not_isEarly hlate).1 hmoves hrest,
      hstep.launched_append_waiting_eq hlate (Ne.symm ha)]

/-- How a round goes on after its targets `ids` have been read, by the moves `after`. -/
structure Diligent (configured : Nat) (ids : List Identity) (after : List RoundMove) (r : Round) :
    Prop where
  /-- The probes that are under way never take up more workers than there are. -/
  busy_le : r.busy ≤ effectiveWorkers configured ids.length
  /-- While a target is waiting the next one can be launched, unless all workers are taken. -/
  exists_launched_iff : r.waiting ≠ [] → ((∃ r', r.step? configured .launched = some r') ↔
    r.busy < effectiveWorkers configured ids.length)
  /-- The targets are launched in order, and none is left out. -/
  launched_append_waiting : .cancelled ∉ after → r.launched ++ r.waiting = ids
  /-- When the round is over all of them have been launched, and all probes have ended. -/
  finished : .cancelled ∉ after → r.stage = .finished → r.launched = ids ∧ r.busy = 0
  /-- It comes to that: a round that is not over can take a step. -/
  progress : r.stage ≠ .finished → ∃ a r', a.isOwn = true ∧ r.step? configured a = some r'

/-- When a round is over no probe is under way. -/
theorem Concluded.busy_eq_zero (h : r.Concluded) (hfinished : r.stage = .finished) :
    r.busy = 0 :=
  List.countP_eq_zero.mpr fun t ht => by simp [h.collected hfinished t ht, ProbeStage.isBusy]

/-- **Every round goes on so.** -/
theorem diligent_run (hm : m.Reachable) (hq : run? configured m before = some q)
    (hr : run? configured m (before ++ .read :: after) = some r) :
    r.Diligent configured q.monitor.registry.identities after := by
  obtain ⟨q₁, q', hq₁, hread, hrest⟩ := runFrom?_append_cons.mp hr
  obtain rfl := Option.some.inj (hq.symm.trans hq₁)
  obtain ⟨hstaffed, hids⟩ : q'.Staffed
        (effectiveWorkers configured q.monitor.registry.identities.length) ∧
      q'.launched ++ q'.waiting = q.monitor.registry.identities := by
    cases Step.of_step? hread with
    | read hreading =>
      obtain ⟨htasks, -⟩ := (orderly_of_reachable hm hq).early (by rw [hreading]; rfl)
      refine ⟨⟨rfl, fun free ids hstage => ?_, ?_⟩, ?_⟩
      · cases hstage
        rfl
      · simp [busy, htasks]
      · simp [launched, waiting, htasks]
  have hstaffed' := runFrom?_induction hstaffed (fun hq hstep => hq.step hstep) hrest
  have hlaunched : .cancelled ∉ after →
      r.launched ++ r.waiting = q.monitor.registry.identities := fun hcancelled => by
    rw [launched_append_waiting_of_runFrom? hstaffed.late hcancelled hrest, hids]
  refine ⟨hstaffed'.busy_le, hstaffed'.exists_launched_iff, hlaunched,
    fun hcancelled hfinished => ?_, fun hfinished =>
      (orderly_of_reachable hm hr).exists_step? hfinished configured⟩
  have hall := hlaunched hcancelled
  rw [waiting_of_finished hfinished, List.append_nil] at hall
  exact ⟨hall, (concluded_run hr).busy_eq_zero hfinished⟩

end

end Round

end Uptime

import Mathlib.Data.List.Nodup
import Mathlib.Data.List.Perm.Basic
import Uptime.Proofs.Round

/-!
# Order in a round

The targets of a round are read off the registry, where every name is there once. From then on a
name only passes from a target that is waiting to a probe, and from the probe to its event, so that
no two events of a round are about one name, whatever others do to the registry meanwhile.

## Main definitions

* `Round.names`: the names that the events of a round have or may get.
* `Round.Orderly`: no name comes up twice.
* `Round.Concluded`: the events have been handed over once, or not yet.

## Main results

* `Round.Step.count_names_le`, `Round.Step.launched_append_waiting`: no step but the reading of the
  targets adds a name.
* `Round.orderly_run`: every round is in order.
* `Round.concluded_run`: the events are handed over once, when all probes have ended.
-/

namespace Uptime

namespace Round

/-! ### One probe comes to another stage -/

open scoped List in
/-- One entry of a list makes way for another. -/
theorem perm_filterMap_set {α β : Type} {f : α → Option β} {xs : List α} {i : Nat} {x : α}
    (h : xs[i]? = some x) (y : α) :
    (xs.set i y).filterMap f ++ (f x).toList ~ xs.filterMap f ++ (f y).toList := by
  obtain ⟨hi, rfl⟩ := List.getElem?_eq_some_iff.mp h
  have hcons : ∀ z zs, (z :: zs).filterMap f = (f z).toList ++ zs.filterMap f := by
    intro z zs
    rw [List.filterMap_cons]
    cases f z <;> rfl
  have hnew := (List.set_perm_cons_eraseIdx hi y).filterMap f
  have hold := (List.getElem_cons_eraseIdx_perm hi).filterMap f
  rw [hcons] at hnew hold
  calc (xs.set i y).filterMap f ++ (f xs[i]).toList
      ~ (f y).toList ++ (xs.eraseIdx i).filterMap f ++ (f xs[i]).toList := hnew.append_right _
    _ ~ (f y).toList ++ ((f xs[i]).toList ++ (xs.eraseIdx i).filterMap f) := by
        rw [List.append_assoc]
        exact List.perm_append_comm.append_left _
    _ ~ (f y).toList ++ xs.filterMap f := hold.append_left _
    _ ~ xs.filterMap f ++ (f y).toList := List.perm_append_comm

theorem set_eq_self_of_map {α β : Type} {f : α → β} {xs : List α} {i : Nat} {x y : α}
    (h : xs[i]? = some x) (hf : f y = f x) : (xs.set i y).map f = xs.map f := by
  rw [List.map_set, hf]
  obtain ⟨hi, rfl⟩ := List.getElem?_eq_some_iff.mp h
  have hi' : i < (xs.map f).length := by simpa using hi
  rw [← List.getElem_map f (h := hi'), List.set_getElem_self]

/-! ### Names -/

/-- The name that the event of a probe has or may get, unless it has been collected. -/
def nameOf? (t : ProbeTask) : Option String :=
  match t.stage with
  | .running => some t.identity.name
  | stage => stage.event?.map Event.target

/-- The names that the events of a round have or may get. -/
def names (r : Round) : List String :=
  r.waiting.map Identity.name ++ r.tasks.filterMap nameOf? ++ r.events.map Event.target

section

variable {workers : Nat} {r r' : Round} {a : RoundMove}

private theorem count_names_set {i : Nat} {t : ProbeTask} (h : r.tasks[i]? = some t)
    (u : ProbeTask) (name : String) :
    ({ r with tasks := r.tasks.set i u }.names).count name + (nameOf? t).toList.count name =
      r.names.count name + (nameOf? u).toList.count name := by
  have hperm := (perm_filterMap_set (f := nameOf?) h u).count_eq name
  have hwaiting : { r with tasks := r.tasks.set i u }.waiting = r.waiting := rfl
  simp only [names, hwaiting, List.count_append] at hperm ⊢
  omega

/-- A probe that comes to another stage keeps its name or loses it. -/
private theorem count_names_enter_le {i : Nat} {t : ProbeTask} (h : r.tasks[i]? = some t)
    {id : Identity} (stage : ProbeStage)
    (hname : nameOf? ⟨id, stage⟩ = none ∨ nameOf? ⟨id, stage⟩ = nameOf? t) (name : String) :
    (r.enter i id stage).names.count name ≤ r.names.count name := by
  have hcount := count_names_set h ⟨id, stage⟩ name
  rcases hname with hnone | hsame
  · rw [hnone, Option.toList_none, List.count_nil] at hcount
    exact Nat.le_of_add_right_le hcount.le
  · rw [hsame] at hcount
    exact (Nat.add_right_cancel hcount).le

/-- **No name is added** but by reading the targets. -/
theorem Step.count_names_le (h : Step workers r a r') (ha : a ≠ .read)
    (name : String) : r'.names.count name ≤ r.names.count name := by
  cases h with
  | listed hlisting succeeds => simp [names, waiting, hlisting]
  | adopted hadopting => simp [names, waiting, hadopting]
  | read hreading => exact absurd rfl ha
  | launched hprobing hbusy =>
    -- the name is no longer waiting but running
    simp only [names, waiting, hprobing, List.filterMap_append, List.count_append, List.map_cons,
      List.count_cons]
    simp [nameOf?, List.count_singleton]
    omega
  | died htask
  | discarded htask _ => exact count_names_enter_le htask (.ended none) (.inl rfl) name
  | @applied i id up now transition htask happly =>
    refine count_names_enter_le htask (.applied ⟨id, up, transition.reason, now⟩ _) ?_ name
    cases hevent : transition.event with
    | none => exact .inl rfl
    | some e => exact .inr (congrArg some (Registry.of_apply_eq_event happly hevent).1)
  | @recorded i id result event htask succeeds =>
    exact count_names_enter_le htask (.ended event) (.inr rfl) name
  | @collected workers i id event hprobing htask =>
    have hcount := count_names_set htask ⟨id, .collected⟩ name
    cases event with
    | none => simpa [names, waiting, enter, nameOf?, ProbeStage.event?] using hcount.le
    | some e =>
      simp [names, waiting, enter, nameOf?, ProbeStage.event?] at hcount ⊢
      omega
  | handed hprobing hcollected => simp [names, waiting, hprobing]
  | cancelled hprobing =>
    simp only [names, waiting, hprobing, List.count_append, List.map_nil, List.count_nil]
    omega
  | stored store => exact le_rfl
  | replaced definitions => exact le_rfl

end

/-! ### Order -/

/-- A round is in order: the registry is one that calls have made, nothing is launched before the
targets have been read, there is a worker, and no name comes up twice. -/
structure Orderly (r : Round) : Prop where
  registry_eq : ∃ calls, r.monitor.registry = Registry.after calls
  early : r.stage.isEarly → r.tasks = [] ∧ r.events = []
  workers_pos : ∀ workers ids, r.stage = .probing workers ids → 0 < workers
  nodup_launched : ((r.launched ++ r.waiting).map Identity.name).Nodup
  nodup_names : r.names.Nodup

/-- The events are handed over when the round is over, and by then all probes have been
collected. -/
structure Concluded (r : Round) : Prop where
  batches_eq : r.batches = if r.stage = .finished then [r.events] else []
  collected : r.stage = .finished → ∀ t ∈ r.tasks, t.stage = .collected

section

variable {workers : Nat} {m : Monitor} {r r' : Round} {a : RoundMove} {moves : List RoundMove}

theorem Orderly.sorted (h : r.Orderly) : r.monitor.registry.Sorted := by
  obtain ⟨calls, heq⟩ := h.registry_eq
  rw [heq]
  exact Registry.sorted_after calls

theorem Orderly.indexed (h : r.Orderly) : r.monitor.registry.Indexed := by
  obtain ⟨calls, heq⟩ := h.registry_eq
  rw [heq]
  exact Registry.indexed_after calls

/-- Probes come to another stage, and their targets stay. -/
private theorem launched_append_waiting_of_set {i : Nat} {id : Identity} {stage stage' : ProbeStage}
    (h : r.tasks[i]? = some ⟨id, stage⟩) (htasks : r'.tasks = r.tasks.set i ⟨id, stage'⟩)
    (hstage : r'.stage = r.stage) : r'.launched ++ r'.waiting <+: r.launched ++ r.waiting := by
  have hmap : (r.tasks.set i ⟨id, stage'⟩).map ProbeTask.identity = r.launched :=
    set_eq_self_of_map h rfl
  rw [launched, htasks, hmap, waiting, hstage]
  exact List.prefix_refl _

/-- **Targets are launched in order**, and none is added but by reading them. -/
theorem Step.launched_append_waiting (h : Step workers r a r') (ha : a ≠ .read) :
    r'.launched ++ r'.waiting <+: r.launched ++ r.waiting := by
  cases h with
  | listed hlisting succeeds => simp [Round.launched, waiting, hlisting]
  | adopted hadopting => simp [Round.launched, waiting, hadopting]
  | read hreading => exact absurd rfl ha
  | launched hprobing hbusy => simp [Round.launched, waiting, hprobing]
  | cancelled hprobing => simp [Round.launched, waiting, hprobing]
  | handed hprobing hcollected => simp [Round.launched, waiting, hprobing]
  | died htask
  | discarded htask _
  | applied htask _
  | recorded htask _
  | collected _ htask => exact launched_append_waiting_of_set htask (by rfl) rfl
  | stored store => exact List.prefix_refl _
  | replaced definitions => exact List.prefix_refl _

/-- The round of a fresh monitor is in order. -/
theorem orderly_begin (calls : List RegistryCall) (store : Store) :
    Orderly { monitor := ⟨Registry.after calls, store⟩ } where
  registry_eq := ⟨calls, rfl⟩
  early _ := ⟨rfl, rfl⟩
  workers_pos _ _ h := nomatch h
  nodup_launched := List.nodup_nil
  nodup_names := List.nodup_nil

/-- **A step keeps the order.** -/
theorem Orderly.step (h : r.Orderly) (hstep : Step workers r a r') : r'.Orderly where
  registry_eq := by
    obtain ⟨calls, heq⟩ := h.registry_eq
    rw [hstep.registry_eq]
    cases r.call? a with
    | none => exact ⟨calls, heq⟩
    | some c =>
      refine ⟨calls ++ [c], ?_⟩
      rw [Registry.after_append_singleton, ← heq]
      rfl
  early hearly := by
    -- where probes can come to another stage, there are some
    have hnone : ∀ {i : Nat} {t : ProbeTask}, r.tasks[i]? = some t → r.stage.isEarly = false := by
      intro i t htask
      by_contra hstage
      simp [(h.early (by simpa using hstage)).1] at htask
    cases hstep with
    | listed hlisting succeeds => exact h.early (by rw [hlisting]; rfl)
    | adopted hadopting => exact h.early (by rw [hadopting]; rfl)
    | read hreading => cases hearly
    | launched hprobing hbusy => cases hearly
    | died htask
    | discarded htask _
    | applied htask _
    | recorded htask _
    | collected _ htask => exact absurd hearly (by simp [hnone htask])
    | handed hprobing hcollected => cases hearly
    | cancelled hprobing => cases hearly
    | stored store => exact h.early hearly
    | replaced definitions => exact h.early hearly
  workers_pos w ids hprobing' := by
    cases hstep with
    | listed hlisting succeeds => cases hprobing'
    | adopted hadopting => cases hprobing'
    | read hreading =>
      cases hprobing'
      exact effectiveWorkers_pos _ _
    | launched hprobing _
    | cancelled hprobing =>
      cases hprobing'
      exact h.workers_pos _ _ hprobing
    | handed hprobing hcollected => cases hprobing'
    | _ => exact h.workers_pos w ids hprobing'
  nodup_launched := by
    by_cases ha : a = .read
    · subst ha
      cases hstep with
      | read hreading =>
        obtain ⟨htasks, -⟩ := h.early (by rw [hreading]; rfl)
        simpa [Round.launched, waiting, htasks] using h.sorted.nodup_names
    · exact h.nodup_launched.sublist ((hstep.launched_append_waiting ha).sublist.map _)
  nodup_names := by
    by_cases ha : a = .read
    · subst ha
      cases hstep with
      | read hreading =>
        obtain ⟨htasks, hevents⟩ := h.early (by rw [hreading]; rfl)
        simpa [names, waiting, htasks, hevents] using h.sorted.nodup_names
    · exact List.nodup_iff_count_le_one.mpr fun name =>
        (hstep.count_names_le ha name).trans (List.nodup_iff_count_le_one.mp h.nodup_names name)

/-- Only by handing over its events a round comes to its end. -/
theorem Step.stage_eq_finished_iff (h : Step workers r a r') (ha : a ≠ .handed) :
    r'.stage = .finished ↔ r.stage = .finished := by
  cases h with
  | listed hlisting succeeds => simp [hlisting]
  | adopted hadopting => simp [hadopting]
  | read hreading => simp [hreading]
  | launched hprobing hbusy => simp [hprobing]
  | cancelled hprobing => simp [hprobing]
  | handed hprobing hcollected => exact absurd rfl ha
  | _ => rfl

private theorem concluded_of_ne_finished (hbatches : r.batches = [])
    (hstage : r.stage ≠ .finished) :
    r.Concluded where
  batches_eq := by rw [if_neg hstage, hbatches]
  collected hfinished := absurd hfinished hstage

theorem concluded_begin (m : Monitor) : Concluded { monitor := m } :=
  concluded_of_ne_finished rfl (by simp)

/-- **A step keeps the account of batches.** -/
theorem Concluded.step (h : r.Concluded) (hstep : Step workers r a r') : r'.Concluded := by
  have hbatches : r.stage ≠ .finished → r.batches = [] := fun hstage => by
    rw [h.batches_eq, if_neg hstage]
  -- when the round is over no probe can come to another stage
  have hopen : ∀ {i : Nat} {t : ProbeTask}, r.tasks[i]? = some t → t.stage ≠ .collected →
      r.stage ≠ .finished :=
    fun htask hstage hfinished => hstage (h.collected hfinished _ (List.mem_of_getElem? htask))
  cases hstep with
  | listed hlisting succeeds =>
    exact concluded_of_ne_finished (hbatches (by simp [hlisting])) (by simp)
  | adopted hadopting => exact concluded_of_ne_finished (hbatches (by simp [hadopting])) (by simp)
  | read hreading => exact concluded_of_ne_finished (hbatches (by simp [hreading])) (by simp)
  | launched hprobing hbusy =>
    exact concluded_of_ne_finished (hbatches (by simp [hprobing])) (by simp)
  | died htask
  | discarded htask _
  | applied htask _
  | recorded htask _
  | collected _ htask =>
    have hstage := hopen htask (by simp)
    exact concluded_of_ne_finished (hbatches hstage) hstage
  | handed hprobing hcollected =>
    exact ⟨by simp [hbatches, hprobing], fun _ => hcollected⟩
  | cancelled hprobing => exact concluded_of_ne_finished (hbatches (by simp [hprobing])) (by simp)
  | stored store => exact ⟨h.batches_eq, h.collected⟩
  | replaced definitions => exact ⟨h.batches_eq, h.collected⟩

end

/-! ### Runs -/

section

variable {workers : Nat} {calls : List RegistryCall} {store : Store} {moves : List RoundMove}
  {r : Round}

/-- **A round of any monitor is in order.** -/
theorem orderly_run (h : run? workers ⟨Registry.after calls, store⟩ moves = some r) : r.Orderly :=
  runFrom?_induction (P := Orderly) (orderly_begin calls store) .step h

/-- **The events of a round are handed over once**, when all its probes have ended. -/
theorem concluded_run {m : Monitor} (h : run? workers m moves = some r) : r.Concluded :=
  runFrom?_induction (P := Concluded) (concluded_begin m) .step h

end

end Round

end Uptime

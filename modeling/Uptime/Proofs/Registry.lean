import Mathlib.Data.List.Basic
import Mathlib.Data.String.Basic
import Uptime.Registry

/-!
# The order of the registry, and the events of probes

A registry that is built from definitions holds every name once and in order, and probe results
leave its identities alone. So a cycle that probes every identity at most once raises at most
one event for each name.

## Main definitions

* `Registry.Sorted`: the names are in strict order.

## Main results

* `Registry.sorted_replace`: definitions are taken over in order.
* `Registry.identities_apply`: probe results do not change what is watched.
* `Registry.of_apply_eq_event`: which events a probe result can raise.
-/

namespace Uptime

/-! ### Order -/

theorem mem_insertNew {t u : TargetState} {ts : List TargetState} (h : u ∈ insertNew t ts) :
    u = t ∨ u ∈ ts := by
  induction ts with
  | nil => exact .inl (List.mem_singleton.mp h)
  | cons v ts ih =>
    rw [insertNew] at h
    split at h
    · exact List.mem_cons.mp h
    · split at h
      · exact .inr h
      · rcases List.mem_cons.mp h with rfl | h
        · exact .inr List.mem_cons_self
        · exact (ih h).imp_right (List.mem_cons_of_mem _)

/-- Insertion keeps strict order. -/
theorem pairwise_insertNew (t : TargetState) {ts : List TargetState}
    (h : ts.Pairwise fun a b => a.name < b.name) :
    (insertNew t ts).Pairwise fun a b => a.name < b.name := by
  induction ts with
  | nil => exact List.pairwise_singleton _ _
  | cons u ts ih =>
    obtain ⟨hu, hts⟩ := List.pairwise_cons.mp h
    rw [insertNew]
    split
    · next hlt =>
      refine List.pairwise_cons.mpr ⟨fun v hv => ?_, h⟩
      rcases List.mem_cons.mp hv with rfl | hv
      · exact hlt
      · exact lt_trans hlt (hu v hv)
    · next hnlt =>
      split
      · exact h
      · next hne =>
        refine List.pairwise_cons.mpr ⟨fun v hv => ?_, ih hts⟩
        rcases mem_insertNew hv with rfl | hv
        · exact lt_of_le_of_ne (not_lt.mp hnlt) (Ne.symm hne)
        · exact hu v hv

theorem pairwise_foldl_insertNew (us : List TargetState) :
    (us.foldl (fun ts u => insertNew u ts) []).Pairwise fun a b => a.name < b.name :=
  List.foldlRecOn (motive := fun ts : List TargetState => ts.Pairwise fun a b => a.name < b.name)
    _ _ List.Pairwise.nil fun _ h u _ => pairwise_insertNew u h

/-! ### Events -/

/-- The event that a probe raises is about the target and, if the target is up, about a change. -/
theorem TargetState.of_observe_eq_event {t : TargetState} {up : Bool} {now : Instant} {e : Event}
    (h : (t.observe up now).2.event = some e) :
    e.target = t.name ∧ (e.kind = .recovered → e.reason = .stateChange) := by
  rw [TargetState.observe] at h
  split at h
  · cases h
  · have hnews : t.news (Status.ofProbe up) now = some e := h
    unfold TargetState.news at hnews
    dsimp only at hnews
    split at hnews <;> cases hnews <;> simp

namespace Registry

/-! ### Definitions -/

/-- The names of a registry are in strict order. -/
def Sorted (r : Registry) : Prop := r.identities.Pairwise fun a b => a.name < b.name

theorem sorted_ofStates {ts : List TargetState} (h : ts.Pairwise fun a b => a.name < b.name) :
    (ofStates ts).Sorted := by
  rw [Sorted, identities, ofStates, List.pairwise_map]
  exact h

/-- **Definitions are taken over in strict order of names.** -/
theorem sorted_replace (r : Registry) (definitions : List Definition) :
    (r.replace definitions).Sorted :=
  sorted_ofStates (pairwise_foldl_insertNew _)

theorem Sorted.pairwise_targets {r : Registry} (h : r.Sorted) :
    r.targets.Pairwise fun a b => a.name < b.name := by
  rw [Sorted, identities, List.pairwise_map] at h
  exact h

/-- Every name is watched once. -/
theorem Sorted.nodup_names {r : Registry} (h : r.Sorted) :
    (r.identities.map Identity.name).Nodup :=
  List.pairwise_map.mpr (h.imp fun hlt => ne_of_lt hlt)

/-! ### Probe results -/

/-- **A probe result does not change what is watched.** -/
theorem identities_apply (r : Registry) (id : Identity) (up : Bool) (now : Instant) :
    (r.apply id up now).1.identities = r.identities := by
  rw [apply]
  split
  · rfl
  · next i _ =>
    split
    · rfl
    · next t ht =>
      split
      · -- the state makes way for one with the same identity
        obtain ⟨hi, rfl⟩ := List.getElem?_eq_some_iff.mp ht
        have hset : (r.targets.map TargetState.identity).set i r.targets[i].identity =
            r.targets.map TargetState.identity := by
          rw [← List.getElem_map TargetState.identity, List.set_getElem_self]
          simpa using hi
        simp only [identities, List.map_set, TargetState.identity_observe, hset]
      · rfl

/-- **An event that is raised by a probe result is about the target that was probed; a recovery is
always a change.** -/
theorem of_apply_eq_event {r : Registry} {id : Identity} {up : Bool} {now : Instant}
    {transition : Transition} (h : (r.apply id up now).2 = some transition) {e : Event}
    (he : transition.event = some e) :
    e.target = id.name ∧ (e.kind = .recovered → e.reason = .stateChange) := by
  rw [apply] at h
  split at h
  · cases h
  · split at h
    · cases h
    · split at h
      · next t _ hid =>
        obtain rfl := Option.some.inj h
        rw [← hid]
        exact TargetState.of_observe_eq_event he
      · cases h

end Registry

end Uptime

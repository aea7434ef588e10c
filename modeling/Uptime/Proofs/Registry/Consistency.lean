import Mathlib.Data.List.Induction
import Uptime.Proofs.ByteOrder
import Uptime.Proofs.Registry.View

/-!
# Registries are consistent

Whatever definitions are taken over and whatever results are applied, a registry that began empty
holds each name once and in order, finds by its index exactly what it holds, and never knows half
of what there is to know about a target.

## Main definitions

* `TargetState.Coherent`: what is known about a target fits together.
* `Snapshot.Shows`: a copy shows a registry.
* `Registry.Consistent`: all that holds of every registry.
* `RegistryCall.time?`: the time of a probe result.

## Main results

* `Registry.consistent_after`: every registry is consistent, and changes do not follow checks.
-/

namespace Uptime

/-! ### One state -/

/-- What is known about a target fits together, and the target can be watched. -/
structure TargetState.Coherent (t : TargetState) : Prop where
  name_ne : t.identity.name ≠ ""
  address_ne : t.identity.address ≠ ""
  port_pos : 0 < t.identity.port
  unknown_iff_lastChecked : t.status = .unknown ↔ t.lastChecked = none
  unknown_iff_lastChanged : t.status = .unknown ↔ t.lastChanged = none

namespace TargetState

/-- A new target that can be watched. -/
theorem coherent_of_usable {d : Definition} (h : d.Usable) :
    ({ identity := d.identity } : TargetState).Coherent where
  name_ne := h.2.1
  address_ne := h.2.2.1
  port_pos := UInt16.pos_iff_ne_zero.mpr h.2.2.2
  unknown_iff_lastChecked := by simp
  unknown_iff_lastChanged := by simp

theorem Coherent.observe {t : TargetState} (h : t.Coherent) (up : Bool) (now : Instant) :
    (t.observe up now).1.Coherent := by
  have hknown := Status.ofProbe_ne_unknown up
  rw [TargetState.observe]
  split
  · next hstatus =>
    -- the same result again: only the time of the check is new
    have hchanged : t.lastChanged ≠ none := by
      rw [Ne, ← h.unknown_iff_lastChanged, hstatus]
      exact hknown
    exact ⟨h.name_ne, h.address_ne, h.port_pos, by simp [hstatus, hknown],
      by simp [hstatus, hknown, hchanged]⟩
  · exact ⟨h.name_ne, h.address_ne, h.port_pos, by simp [hknown], by simp [hknown]⟩

/-- The last change was no later than the last check. -/
def InOrder (t : TargetState) : Prop :=
  ∀ changed ∈ t.lastChanged, ∀ checked ∈ t.lastChecked, changed ≤ checked

/-- The time of the last change is an old one or that of the result. -/
theorem lastChanged_observe {t : TargetState} {up : Bool} {now changed : Instant}
    (h : changed ∈ (t.observe up now).1.lastChanged) :
    changed ∈ t.lastChanged ∨ changed = now := by
  rw [observe] at h
  split at h
  · exact .inl h
  · exact .inr (Option.some.inj h).symm

@[simp] theorem lastChecked_observe (t : TargetState) (up : Bool) (now : Instant) :
    (t.observe up now).1.lastChecked = some now := by
  rw [observe]
  split <;> rfl

end TargetState

/-! ### Snapshots -/

/-- A copy shows the states of a registry in their order, and their numbers. -/
structure Snapshot.Shows (s : Snapshot) (r : Registry) : Prop where
  targets_eq : s.targets = r.targets
  total_eq : s.total = r.targets.length
  up_eq : s.up = (s.targets.filter fun t => t.status = .up).length
  down_eq : s.down = (s.targets.filter fun t => t.status = .down).length
  unknown_eq : s.unknown = (s.targets.filter fun t => t.status = .unknown).length
  sum_eq : s.up + s.down + s.unknown = s.total

/-- Every state has one of three statuses. -/
theorem length_filter_status (ts : List TargetState) :
    (ts.filter fun t => t.status = .up).length + (ts.filter fun t => t.status = .down).length +
      (ts.filter fun t => t.status = .unknown).length = ts.length := by
  induction ts with
  | nil => rfl
  | cons t ts ih =>
    cases hstatus : t.status <;> simp [hstatus] <;> omega

theorem Registry.shows_snapshot (r : Registry) (now : Instant) : (r.snapshot now).Shows r where
  targets_eq := rfl
  total_eq := rfl
  up_eq := List.countP_eq_length_filter
  down_eq := List.countP_eq_length_filter
  unknown_eq := List.countP_eq_length_filter
  sum_eq := by
    simpa only [Registry.snapshot, Registry.count, List.countP_eq_length_filter] using
      length_filter_status r.targets

/-! ### Registries -/

/-- The time of a probe result. -/
def RegistryCall.time? : RegistryCall → Option Instant
  | replace _ => none
  | apply _ _ now => some now

namespace Registry

/-- What holds of every registry. -/
structure Consistent (r : Registry) : Prop where
  /-- The bytes of the names are in strict order. -/
  increasing : r.targets.Pairwise fun a b =>
    a.name.toByteArray.data.toList < b.name.toByteArray.data.toList
  /-- The index gives the place of each name. -/
  find?_index : ∀ name i,
    r.index.find? name = some i ↔ ∃ t, r.targets[i]? = some t ∧ t.name = name
  /-- What is found is what is registered. -/
  get?_eq_some_iff : ∀ name t, r.get? name = some t ↔ t ∈ r.targets ∧ t.name = name
  /-- Results are taken over for what is registered. -/
  isSome_apply_iff : ∀ id up now, (r.apply id up now).2.isSome ↔ id ∈ r.identities
  coherent : ∀ t ∈ r.targets, t.Coherent
  shows_snapshot : ∀ now, (r.snapshot now).Shows r

theorem coherent_after (calls : List RegistryCall) : ∀ t ∈ (after calls).targets, t.Coherent := by
  induction calls using List.reverseRecOn with
  | nil => simp [after]
  | append_singleton calls c ih =>
    intro u hu
    rw [after_append_singleton] at hu
    rcases of_mem_targets_call (indexed_after calls) hu with
      hold | ⟨d, husable, rfl⟩ | ⟨t, ht, id, up, now, -, rfl⟩
    · exact ih u hold
    · exact TargetState.coherent_of_usable husable
    · exact (ih t ht).observe up now

/-- Every change has the time of a result. -/
theorem lastChanged_mem_after (calls : List RegistryCall) : ∀ t ∈ (after calls).targets,
    ∀ changed ∈ t.lastChanged, changed ∈ calls.filterMap RegistryCall.time? := by
  induction calls using List.reverseRecOn with
  | nil => simp [after]
  | append_singleton calls c ih =>
    intro u hu changed hchanged
    rw [after_append_singleton] at hu
    rw [List.filterMap_append, List.mem_append]
    rcases of_mem_targets_call (indexed_after calls) hu with
      hold | ⟨d, -, rfl⟩ | ⟨t, ht, id, up, now, rfl, rfl⟩
    · exact .inl (ih u hold changed hchanged)
    · cases hchanged
    · rcases TargetState.lastChanged_observe hchanged with hold | rfl
      · exact .inl (ih t ht changed hold)
      · exact .inr List.mem_cons_self

/-- If time does not run backwards, no change is later than the last check. -/
theorem inOrder_after (calls : List RegistryCall)
    (htimes : (calls.filterMap RegistryCall.time?).Pairwise (· ≤ ·)) :
    ∀ t ∈ (after calls).targets, t.InOrder := by
  induction calls using List.reverseRecOn with
  | nil => simp [after]
  | append_singleton calls c ih =>
    intro u hu
    rw [after_append_singleton] at hu
    rw [List.filterMap_append, List.pairwise_append] at htimes
    rcases of_mem_targets_call (indexed_after calls) hu with
      hold | ⟨d, -, rfl⟩ | ⟨t, ht, id, up, now, rfl, rfl⟩
    · exact ih htimes.1 u hold
    · intro changed hchanged
      cases hchanged
    · intro changed hchanged checked hchecked
      rw [TargetState.lastChecked_observe] at hchecked
      obtain rfl : now = checked := Option.some.inj hchecked
      rcases TargetState.lastChanged_observe hchanged with hold | rfl
      · exact htimes.2.2 changed (lastChanged_mem_after calls t ht changed hold) now
          List.mem_cons_self
      · exact Int.le_refl _

/-- **Every registry is consistent**, whatever definitions were taken over and whatever results were
applied; and if the times of the results never decrease, no change is later than the last check. -/
theorem consistent_after (calls : List RegistryCall) :
    (after calls).Consistent ∧
      ((calls.filterMap RegistryCall.time?).Pairwise (· ≤ ·) →
        ∀ t ∈ (after calls).targets, t.InOrder) := by
  have hindexed := indexed_after calls
  refine ⟨⟨(sorted_after calls).pairwise_targets.imp toByteArray_lt_iff.mpr, hindexed,
    fun name t => get?_eq_some_iff hindexed, isSome_apply_iff hindexed, coherent_after calls,
    (after calls).shows_snapshot⟩, ?_⟩
  exact inOrder_after calls

/-- A list with a disabled, an incomplete and a repeated definition, then results of one target, of
which the last repeats the one before, with a new list in between. -/
theorem consistent_after_repeated_definition :
    let calls : List RegistryCall :=
      [.replace [⟨"web", "b", 81, true⟩, ⟨"db", "a", 5432, true⟩, ⟨"web", "a", 80, true⟩,
        ⟨"off", "a", 80, false⟩, ⟨"", "a", 80, true⟩, ⟨"lost", "", 80, true⟩,
        ⟨"shut", "a", 0, true⟩],
       .apply ⟨"web", "a", 80⟩ true (.atMillis 0),
       .apply ⟨"web", "b", 81⟩ true (.atMillis 1),
       .apply ⟨"web", "b", 81⟩ false (.atMillis 5),
       .replace [⟨"web", "b", 81, true⟩],
       .apply ⟨"web", "b", 81⟩ false (.atMillis 9)]
    (after calls).targets =
        [⟨⟨"web", "b", 81⟩, .down, some (.atMillis 5), some (.atMillis 9)⟩] ∧
      (calls.filterMap RegistryCall.time?).Pairwise (· ≤ ·) ∧
      (after calls).Consistent ∧ ∀ t ∈ (after calls).targets, t.InOrder := by
  intro calls
  have htimes : (calls.filterMap RegistryCall.time?).Pairwise (· ≤ ·) := by decide
  exact ⟨by decide +kernel, htimes, (consistent_after calls).1,
    (consistent_after calls).2 htimes⟩

end Registry

end Uptime

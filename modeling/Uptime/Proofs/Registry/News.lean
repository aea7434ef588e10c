import Uptime.Proofs.Registry.Epoch

/-!
# What the registry raises

A call of the registry raises an event exactly when the status of a known target changes, or when a
new target is down; and the event says what the status has become. So the last event about a target
tells its status from then on.

## Main definitions

* `AlertKind.status`: the status that an event tells.
* `Registry.raised?`: the event that a call raises.

## Main results

* `TargetState.status_of_observe_eq_event`: an event tells the status that the target has from then
  on.
* `Registry.status_call`: so does what a call raises, and if it raises nothing about a target whose
  status is known, the status stays.
-/

namespace Uptime

/-- The status that an event of some kind tells. -/
def AlertKind.status : AlertKind → Status
  | down => .down
  | recovered => .up

/-- An event is about a target with exactly this identity. -/
structure Event.IsAbout (e : Event) (id : Identity) : Prop where
  target_eq : e.target = id.name
  address_eq : e.address = id.address
  port_eq : e.port = id.port

/-- An event is about one target only. -/
theorem Event.IsAbout.eq {e : Event} {id id' : Identity} (h : e.IsAbout id) (h' : e.IsAbout id') :
    id = id' := by
  have hname := h.target_eq.symm.trans h'.target_eq
  have haddress := h.address_eq.symm.trans h'.address_eq
  have hport := h.port_eq.symm.trans h'.port_eq
  cases id
  cases id'
  simp_all

namespace TargetState

variable {t : TargetState} {up : Bool} {now : Instant}

/-- **An event tells the status that the target has from then on.** -/
theorem status_of_observe_eq_event {e : Event} (h : (t.observe up now).2.event = some e) :
    e.IsAbout t.identity ∧ (t.observe up now).1.status = e.kind.status := by
  rw [observe] at h ⊢
  split at h
  · cases h
  · next hne =>
    rw [if_neg hne]
    have hnews : t.news (Status.ofProbe up) now = some e := h
    unfold news at hnews
    dsimp only at hnews
    split at hnews <;> cases hnews <;> exact ⟨⟨rfl, rfl, rfl⟩, by simp_all [AlertKind.status]⟩

/-- Where there is no event the status stays, once it is known. -/
theorem status_of_observe_eq_none (h : (t.observe up now).2.event = none)
    (hknown : t.status ≠ .unknown) : (t.observe up now).1.status = t.status := by
  rw [observe] at h ⊢
  split at h
  · next heq => rw [if_pos heq]
  · next hne =>
    have hnews : t.news (Status.ofProbe up) now = none := h
    cases up <;> cases hstatus : t.status <;> simp_all [news, Status.ofProbe]

end TargetState

namespace Registry

/-- The event that a call raises. -/
def raised? (r : Registry) : RegistryCall → Option Event
  | .replace _ => none
  | .apply id up now => (r.apply id up now).2.bind Transition.event

variable {r : Registry} {c : RegistryCall} {id : Identity} {t : TargetState}

/-- What a call raises is about a registered target. -/
theorem exists_of_raised?_eq_some (h : r.Indexed) {e : Event} (he : r.raised? c = some e) :
    ∃ id up now t, c = .apply id up now ∧ r.get? id.name = some t ∧ t.identity = id ∧
      (t.observe up now).2.event = some e := by
  cases c with
  | replace definitions => cases he
  | apply id up now =>
    obtain ⟨transition, happly, hevent⟩ := Option.bind_eq_some_iff.mp he
    obtain ⟨t, hget, hid, rfl⟩ := (apply_eq_some_iff h).mp happly
    exact ⟨id, up, now, t, rfl, hget, hid, hevent⟩

/-- **What a call raises is what it changes**: while a target stays registered its status becomes
what an event about it tells, and if nothing is raised about it, it stays, once it is known. -/
theorem status_call (h : r.Indexed) (hget : r.get? id.name = some t) (hid : t.identity = id)
    (hmem : id ∈ (r.call c).identities) :
    ∃ t', (r.call c).get? id.name = some t' ∧ t'.identity = id ∧
      (∀ e, r.raised? c = some e → e.target = id.name →
        e.IsAbout id ∧ t'.status = e.kind.status) ∧
      ((∀ e, r.raised? c = some e → e.target ≠ id.name) → t.status ≠ .unknown →
        t'.status = t.status) := by
  have hcall := get?_call_of_mem h hget hid hmem
  cases hprobe : c.probeOf id with
  | none =>
    rw [hprobe] at hcall
    refine ⟨t, hcall, hid, fun e he htarget => ?_, fun _ _ => rfl⟩
    -- an event about the name would be about the target itself
    exfalso
    obtain ⟨id', up, now, t', rfl, hget', hid', hevent⟩ := exists_of_raised?_eq_some h he
    have hname : id'.name = id.name := by
      rw [← htarget, (TargetState.status_of_observe_eq_event hevent).1.target_eq, hid']
    rw [hname, hget] at hget'
    obtain rfl : t = t' := Option.some.inj hget'
    rw [RegistryCall.probeOf, if_pos (hid'.symm.trans hid)] at hprobe
    cases hprobe
  | some probe =>
    obtain ⟨up, now⟩ := probe
    rw [hprobe] at hcall
    obtain rfl : c = .apply id up now := by
      cases c with
      | replace definitions => cases hprobe
      | apply id' up' now' =>
        rw [RegistryCall.probeOf] at hprobe
        split at hprobe <;> cases hprobe
        next heq => rw [heq]
    have hraised : r.raised? (.apply id up now) = (t.observe up now).2.event := by
      rw [raised?, (apply_eq_some_iff h).mpr ⟨t, hget, hid, rfl⟩]
      rfl
    refine ⟨(t.observe up now).1, hcall, by rw [TargetState.identity_observe, hid], ?_, ?_⟩
    · intro e he _
      rw [hraised] at he
      exact hid ▸ TargetState.status_of_observe_eq_event he
    · intro hnone hknown
      refine TargetState.status_of_observe_eq_none ?_ hknown
      refine Option.eq_none_iff_forall_ne_some.mpr fun e he => ?_
      refine hnone e (hraised.trans he) ?_
      rw [(TargetState.status_of_observe_eq_event he).1.target_eq, hid]

end Registry

end Uptime

import Mathlib.Data.List.Induction
import Mathlib.Data.List.Infix
import Uptime.Proofs.Registry.View

/-!
# The history of a target

A target is new when it enters the registry under some name, address and port, and from then on,
until one of them changes or it leaves, its results form one history. The first of them is a first
check; each later one is a change or repeats the one before. Other targets, results for what is no
longer registered and new lists of definitions leave no trace in it.

## Main definitions

* `Transition.ofFirst`, `Transition.ofLater`: what a result means, after the one before it.
* `TargetState.Observation`, `Registry.Applies`: what a result does to a state, and to a registry.
* `History`: what some results of a new target mean, and what is known afterwards.
* `Epoch`: some calls during which a target stays registered, after the one by which it enters.
* `EpochHistory`: what happens to it meanwhile.

## Main results

* `TargetState.observation_observe`, `Registry.applies_of_apply`: a result is taken over.
* `TargetState.history_observeAll`: the results of a new target have a history.
* `Registry.get?_call_of_mem`: what a call does to a target that stays registered.
* `Registry.epoch_history`: every epoch has the history of its results.
-/

namespace Uptime

/-- An event about a target. -/
def Identity.event (id : Identity) (kind : AlertKind) (reason : AlertReason) (now : Instant) :
    Event :=
  ⟨kind, id.name, id.address, id.port, reason, now⟩

namespace Transition

/-- What the first result of a target means: it is a first check, and news if the target is
down. -/
def ofFirst (id : Identity) (up : Bool) (now : Instant) : Transition :=
  ⟨.first, if up then none else some (id.event .down .initialCheck now)⟩

/-- What a later result means after the one before it: it is a change, and news, if it differs. -/
def ofLater (id : Identity) (before up : Bool) (now : Instant) : Transition :=
  if up = before then ⟨.poll, none⟩
  else ⟨.change, some (id.event (if up then .recovered else .down) .stateChange now)⟩

end Transition

/-! ### Results of one target -/

namespace TargetState

variable {t : TargetState} {id : Identity} {before up : Bool}

theorem observe_of_unknown (hid : t.identity = id) (h : t.status = .unknown) (up : Bool)
    (now : Instant) :
    t.observe up now =
      ({ t with status := .ofProbe up, lastChanged := some now, lastChecked := some now },
        .ofFirst id up now) := by
  subst hid
  cases up <;> simp [observe, news, Transition.ofFirst, Identity.event, Status.ofProbe, h]

theorem observe_of_eq (id : Identity) (h : t.status = .ofProbe before) (now : Instant) :
    t.observe before now =
      ({ t with lastChecked := some now }, .ofLater id before before now) := by
  simp [observe, Transition.ofLater, h]

theorem observe_of_ne (hid : t.identity = id) (h : t.status = .ofProbe before)
    (hne : up ≠ before) (now : Instant) :
    t.observe up now =
      ({ t with status := .ofProbe up, lastChanged := some now, lastChecked := some now },
        .ofLater id before up now) := by
  subst hid
  cases up <;> cases before <;>
    simp_all [observe, news, Transition.ofLater, Identity.event, Status.ofProbe]

/-- A result is taken over: a target that was in the state `t` is in the state `t'` afterwards, and
`transition` is what the result means. -/
structure Observation (t : TargetState) (up : Bool) (now : Instant) (t' : TargetState)
    (transition : Transition) : Prop where
  identity_eq : t'.identity = t.identity
  status_eq : t'.status = if up then .up else .down
  lastChecked_eq : t'.lastChecked = some now
  /-- The status has changed now, or when it did before. -/
  lastChanged_eq : t'.lastChanged = if t'.status = t.status then t.lastChanged else some now
  first : t.status = .unknown → transition = .ofFirst t.identity up now
  later : ∀ before, t.status = (if before then .up else .down) →
    transition = .ofLater t.identity before up now

/-- There is one state that a result can lead to. -/
theorem Observation.eq {now : Instant} {t' : TargetState} {transition : Transition}
    (h : t.Observation up now t' transition) :
    t' =
      { identity := t.identity
        status := if up then .up else .down
        lastChanged :=
          if (if up then Status.up else .down) = t.status then t.lastChanged else some now
        lastChecked := some now } := by
  obtain ⟨identity, status, lastChanged, lastChecked⟩ := t'
  obtain ⟨rfl, rfl, rfl, hchanged, -, -⟩ := h
  exact TargetState.mk.injEq .. ▸ ⟨rfl, rfl, hchanged, rfl⟩

/-- **A result is taken over.** -/
theorem observation_observe (t : TargetState) (up : Bool) (now : Instant) :
    t.Observation up now (t.observe up now).1 (t.observe up now).2 := by
  rcases t.status.eq_unknown_or_exists_ofProbe with h | ⟨before, h⟩
  · have hne : ∀ up, Status.ofProbe up ≠ t.status := fun up => h ▸ Status.ofProbe_ne_unknown up
    rw [observe_of_unknown rfl h]
    exact ⟨rfl, rfl, rfl, (if_neg (hne up)).symm, fun _ => rfl,
      fun before hbefore => absurd hbefore.symm (hne before)⟩
  · have hknown : t.status ≠ .unknown := h ▸ Status.ofProbe_ne_unknown before
    have hlast : ∀ before', t.status = .ofProbe before' → before' = before := fun before' h' =>
      Status.ofProbe_inj.mp (h'.symm.trans h)
    by_cases hup : up = before
    · subst hup
      rw [observe_of_eq t.identity h]
      exact ⟨rfl, h, rfl, (if_pos rfl).symm, fun h' => absurd h' hknown,
        fun before' h' => by rw [hlast before' h']⟩
    · have hne : Status.ofProbe up ≠ t.status := fun heq => hup (hlast up heq.symm)
      rw [observe_of_ne rfl h hup]
      exact ⟨rfl, rfl, rfl, (if_neg hne).symm, fun h' => absurd h' hknown,
        fun before' h' => by rw [hlast before' h']⟩

/-- The state after some results, and what each of them means. -/
def observeAll (t : TargetState) (probes : List (Bool × Instant)) : TargetState × List Transition :=
  probes.foldl (fun s probe =>
    ((s.1.observe probe.1 probe.2).1, s.2 ++ [(s.1.observe probe.1 probe.2).2])) (t, [])

theorem observeAll_append_singleton (t : TargetState) (probes : List (Bool × Instant)) (up : Bool)
    (now : Instant) :
    t.observeAll (probes ++ [(up, now)]) =
      (((t.observeAll probes).1.observe up now).1,
        (t.observeAll probes).2 ++ [((t.observeAll probes).1.observe up now).2]) := by
  rw [observeAll, List.foldl_append]
  rfl

@[simp] theorem identity_observeAll (t : TargetState) (probes : List (Bool × Instant)) :
    (t.observeAll probes).1.identity = t.identity := by
  induction probes using List.reverseRecOn with
  | nil => rfl
  | append_singleton probes probe ih =>
    rw [observeAll_append_singleton, identity_observe, ih]

end TargetState

/-- The transitions `ts` are those of the results `probes` of a new target. -/
structure TransitionsOf (id : Identity) (probes : List (Bool × Instant)) (ts : List Transition) :
    Prop where
  length_eq : ts.length = probes.length
  first : ∀ up now, probes[0]? = some (up, now) → ts[0]? = some (.ofFirst id up now)
  later : ∀ i before earlier up now, probes[i]? = some (before, earlier) →
    probes[i + 1]? = some (up, now) → ts[i + 1]? = some (.ofLater id before up now)

/-- What the results `probes` of a new target mean: `ts` are their transitions, and `t` is the state
afterwards. -/
structure History (id : Identity) (probes : List (Bool × Instant)) (ts : List Transition)
    (t : TargetState) : Prop extends TransitionsOf id probes ts where
  identity_eq : t.identity = id
  /-- Outages and recoveries alternate, beginning with an outage. -/
  alternating : ∀ j e, (ts.filterMap Transition.event)[j]? = some e →
    e.kind = if j % 2 = 0 then .down else .recovered
  /-- The target is down as long as the last of them is an outage. -/
  down_iff : t.status = .down ↔ (ts.filterMap Transition.event).length % 2 = 1
  /-- The status is that of the last result. -/
  status_eq : t.status = (probes.getLast?.map fun probe => Status.ofProbe probe.1).getD .unknown
  lastChecked_eq : t.lastChecked = probes.getLast?.map Prod.snd
  /-- The last change is that of the last result that was no repetition. -/
  lastChanged_eq : probes ≠ [] → ∃ (i : Nat) (up : Bool) (now : Instant) (transition : Transition),
    probes[i]? = some (up, now) ∧ ts[i]? = some transition ∧ transition.reason ≠ .poll ∧
    (∀ j, i < j → ∀ transition' : Transition, ts[j]? = some transition' →
      transition'.reason = .poll) ∧
    t.lastChanged = some now

private theorem getElem?_concat_eq_some_iff {α : Type} {xs : List α} {x y : α} {i : Nat} :
    (xs ++ [x])[i]? = some y ↔ xs[i]? = some y ∨ i = xs.length ∧ x = y := by
  rw [List.getElem?_append]
  split
  · next h => simp [Nat.ne_of_lt h]
  · next h =>
    rw [List.getElem?_eq_none (Nat.le_of_not_lt h), List.getElem?_singleton]
    by_cases hi : i - xs.length = 0
    · have : i = xs.length := by omega
      simp [this]
    · have : i ≠ xs.length := by omega
      simp [hi, this]

section

variable {id : Identity} {probes : List (Bool × Instant)} {ts : List Transition} {t : TargetState}
  {before up : Bool} {earlier : Instant}

theorem TransitionsOf.append_singleton (h : TransitionsOf id probes ts)
    (hlast : probes.getLast? = some (before, earlier)) (up : Bool) (now : Instant) :
    TransitionsOf id (probes ++ [(up, now)]) (ts ++ [.ofLater id before up now]) where
  length_eq := by simp [h.length_eq]
  first up' now' hprobe := by
    rcases getElem?_concat_eq_some_iff.mp hprobe with hold | ⟨hlength, -⟩
    · exact getElem?_concat_eq_some_iff.mpr (.inl (h.first up' now' hold))
    · rw [List.length_eq_zero_iff.mp hlength.symm] at hlast
      cases hlast
  later i before' earlier' up' now' hbefore hprobe := by
    have hi : i + 1 < (probes ++ [(up, now)]).length := (List.getElem?_eq_some_iff.mp hprobe).1
    rw [List.length_append, List.length_singleton] at hi
    rw [List.getElem?_append_left (by omega)] at hbefore
    rcases getElem?_concat_eq_some_iff.mp hprobe with hold | ⟨hlength, hnew⟩
    · exact getElem?_concat_eq_some_iff.mpr (.inl (h.later i _ _ _ _ hbefore hold))
    · -- the result before the new one is the last of the old ones
      rw [List.getLast?_eq_getElem?, ← hlength, Nat.add_sub_cancel, hbefore] at hlast
      cases hlast
      cases hnew
      exact getElem?_concat_eq_some_iff.mpr (.inr ⟨hlength.trans h.length_eq.symm, rfl⟩)

namespace History

/-- A new target has no history. -/
theorem nil (id : Identity) : History id [] [] { identity := id } where
  length_eq := rfl
  first := by simp
  later := by simp
  identity_eq := rfl
  alternating := by simp
  down_iff := by simp
  status_eq := rfl
  lastChecked_eq := rfl
  lastChanged_eq := by simp

/-- **The first result.** -/
theorem singleton (id : Identity) (up : Bool) (now : Instant) :
    History id [(up, now)] [.ofFirst id up now]
      { identity := id, status := .ofProbe up, lastChanged := some now,
        lastChecked := some now } where
  length_eq := rfl
  first := by simp
  later := by simp
  identity_eq := rfl
  alternating j e he := by
    cases up with
    | true => simp [Transition.ofFirst] at he
    | false =>
      cases j with
      | zero => exact Option.some.inj he ▸ rfl
      | succ j => simp [Transition.ofFirst] at he
  down_iff := by cases up <;> simp [Status.ofProbe, Transition.ofFirst]
  status_eq := rfl
  lastChecked_eq := rfl
  lastChanged_eq _ := by
    refine ⟨0, up, now, _, rfl, rfl, by simp [Transition.ofFirst],
      fun j hj transition' h' => ?_, rfl⟩
    obtain ⟨j, rfl⟩ := Nat.exists_eq_add_of_lt hj
    simp at h'

/-- **A repeated result** is no news, and only the time of the last check is new. -/
theorem append_of_eq (h : History id probes ts t)
    (hlast : probes.getLast? = some (before, earlier)) (now : Instant) :
    History id (probes ++ [(before, now)]) (ts ++ [.ofLater id before before now])
      { t with lastChecked := some now } where
  toTransitionsOf := h.append_singleton hlast before now
  identity_eq := h.identity_eq
  alternating := by simpa [Transition.ofLater] using h.alternating
  down_iff := by simpa [Transition.ofLater] using h.down_iff
  status_eq := by simp [h.status_eq, hlast]
  lastChecked_eq := by simp
  lastChanged_eq _ := by
    obtain ⟨i, up, changed, transition, hprobe, htransition, hreason, hpolls, hchanged⟩ :=
      h.lastChanged_eq (by rintro rfl; cases hlast)
    refine ⟨i, up, changed, transition, ?_, ?_, hreason, fun j hj transition' h' => ?_, hchanged⟩
    · exact getElem?_concat_eq_some_iff.mpr (.inl hprobe)
    · exact getElem?_concat_eq_some_iff.mpr (.inl htransition)
    · rcases getElem?_concat_eq_some_iff.mp h' with hold | ⟨-, rfl⟩
      · exact hpolls j hj transition' hold
      · simp [Transition.ofLater]

/-- **A change** is news of the other kind than the event before it. -/
theorem append_of_ne (h : History id probes ts t)
    (hlast : probes.getLast? = some (before, earlier)) (hne : up ≠ before) (now : Instant) :
    History id (probes ++ [(up, now)]) (ts ++ [.ofLater id before up now])
      { t with status := .ofProbe up, lastChanged := some now, lastChecked := some now } where
  toTransitionsOf := h.append_singleton hlast up now
  identity_eq := h.identity_eq
  alternating j e he := by
    rw [List.filterMap_append] at he
    simp only [Transition.ofLater, if_neg hne, List.filterMap_cons, List.filterMap_nil] at he
    rcases getElem?_concat_eq_some_iff.mp he with hold | ⟨rfl, rfl⟩
    · exact h.alternating j e hold
    · -- the target was down before the change exactly if the number of events was odd
      have hdown := h.down_iff
      rw [h.status_eq, hlast] at hdown
      cases up <;> cases before <;> simp_all [Status.ofProbe, Identity.event]
  down_iff := by
    have hdown := h.down_iff
    rw [h.status_eq, hlast] at hdown
    simp only [List.filterMap_append, Transition.ofLater, if_neg hne, List.filterMap_cons,
      List.filterMap_nil, List.length_append, List.length_singleton]
    cases up <;> cases before <;> simp_all [Status.ofProbe] <;> omega
  status_eq := by simp
  lastChecked_eq := by simp
  lastChanged_eq _ := by
    refine ⟨probes.length, up, now, .ofLater id before up now, by simp, ?_, ?_,
      fun j hj transition' h' => ?_, rfl⟩
    · rw [← h.length_eq]
      simp
    · simp [Transition.ofLater, hne]
    · have hj' : j < (ts ++ [Transition.ofLater id before up now]).length :=
        (List.getElem?_eq_some_iff.mp h').1
      rw [List.length_append, List.length_singleton, h.length_eq] at hj'
      omega

end History

/-- **The results of a new target have a history.** -/
theorem TargetState.history_observeAll (id : Identity) (probes : List (Bool × Instant)) :
    History id probes (observeAll { identity := id } probes).2
      (observeAll { identity := id } probes).1 := by
  induction probes using List.reverseRecOn with
  | nil => exact .nil id
  | append_singleton probes probe ih =>
    obtain ⟨up, now⟩ := probe
    rw [observeAll_append_singleton]
    cases hlast : probes.getLast? with
    | none =>
      obtain rfl := List.getLast?_eq_none_iff.mp hlast
      change History id [(up, now)]
        [(observe { identity := id } up now).2] (observe { identity := id } up now).1
      rw [observe_of_unknown rfl rfl]
      exact .singleton id up now
    | some probe =>
      obtain ⟨before, earlier⟩ := probe
      have hstatus := ih.status_eq
      rw [hlast] at hstatus
      by_cases hup : up = before
      · subst hup
        rw [observe_of_eq id hstatus]
        exact ih.append_of_eq hlast now
      · rw [observe_of_ne ih.identity_eq hstatus hup]
        exact ih.append_of_ne hlast hup now

end

/-! ### Calls while a target is registered -/

/-- The result that a call applies to a target with exactly this identity. -/
def RegistryCall.probeOf (id : Identity) : RegistryCall → Option (Bool × Instant)
  | replace _ => none
  | apply id' up now => if id' = id then some (up, now) else none

namespace Registry

/-- The results that some calls apply to a target. -/
def probesOf (id : Identity) (calls : List RegistryCall) : List (Bool × Instant) :=
  calls.filterMap (RegistryCall.probeOf id)

theorem probesOf_append_singleton (id : Identity) (calls : List RegistryCall) (c : RegistryCall) :
    probesOf id (calls ++ [c]) = probesOf id calls ++ (c.probeOf id).toList := by
  rw [probesOf, List.filterMap_append, List.filterMap_cons]
  cases c.probeOf id <;> rfl

/-- What the calls that apply a result to a target return, one after the other. -/
def answersTo (id : Identity) : Registry → List RegistryCall → List (Option Transition)
  | _, [] => []
  | r, c :: calls =>
    ((c.probeOf id).map fun probe => (r.apply id probe.1 probe.2).2).toList ++
      answersTo id (r.call c) calls

theorem answersTo_append_singleton (id : Identity) (c : RegistryCall) (calls : List RegistryCall)
    (r : Registry) :
    answersTo id r (calls ++ [c]) = answersTo id r calls ++
      ((c.probeOf id).map fun probe =>
        ((calls.foldl call r).apply id probe.1 probe.2).2).toList := by
  induction calls generalizing r with
  | nil => simp [answersTo]
  | cons d calls ih =>
    rw [List.cons_append, answersTo, ih, answersTo, List.append_assoc]
    rfl

/-- A result is applied: its target takes it over, and nothing else changes. -/
structure Applies (r : Registry) (id : Identity) (up : Bool) (now : Instant) (r' : Registry)
    (transition : Transition) : Prop where
  exists_observation : ∃ t t', r.get? id.name = some t ∧ t.identity = id ∧
    r'.get? id.name = some t' ∧ t.Observation up now t' transition
  get?_eq : ∀ name, name ≠ id.name → r'.get? name = r.get? name
  identities_eq : r'.identities = r.identities

/-- **A result that is not ignored is applied.** -/
theorem applies_of_apply {r : Registry} (h : r.Indexed) {id : Identity} {up : Bool} {now : Instant}
    {transition : Transition} (happly : (r.apply id up now).2 = some transition) :
    r.Applies id up now (r.apply id up now).1 transition := by
  obtain ⟨t, hget, hid, rfl⟩ := (apply_eq_some_iff h).mp happly
  refine ⟨⟨t, _, hget, hid, ?_, t.observation_observe up now⟩, fun name hname => ?_,
    identities_apply ..⟩
  · rw [get?_apply h hget hid, if_pos rfl]
  · rw [get?_apply h hget hid, if_neg hname]

/-- Only definitions can bring a target into the registry, and it comes as a new one. -/
theorem get?_call_of_notMem {r : Registry} (h : r.Indexed) {id : Identity} {c : RegistryCall}
    (hold : id ∉ r.identities) (hnew : id ∈ (r.call c).identities) :
    (r.call c).get? id.name = some { identity := id } := by
  cases c with
  | apply id' up now =>
    rw [call, identities_apply] at hnew
    exact absurd hnew hold
  | replace definitions =>
    obtain ⟨t, hget, rfl⟩ := (mem_identities_iff (r.indexed_replace definitions)).mp hnew
    rw [call, hget]
    rw [get?_replace] at hget
    obtain ⟨d, -, rfl⟩ := Option.map_eq_some_iff.mp hget
    rcases r.carry_eq d with hcarried | hfresh
    · -- what is carried over was registered before
      exact absurd ((mem_identities_iff h).mpr ⟨_, by rwa [identity_carry], rfl⟩) hold
    · rw [hfresh]

/-- **What a call does to a target that stays registered**: it takes over its own results, and
nothing else. -/
theorem get?_call_of_mem {r : Registry} (h : r.Indexed) {id : Identity} {c : RegistryCall}
    {t : TargetState} (hget : r.get? id.name = some t) (hid : t.identity = id)
    (hnew : id ∈ (r.call c).identities) :
    (r.call c).get? id.name =
      some ((c.probeOf id).elim t fun probe => (t.observe probe.1 probe.2).1) := by
  cases c with
  | replace definitions =>
    obtain ⟨u, hu, huid⟩ := (mem_identities_iff (r.indexed_replace definitions)).mp hnew
    rw [call, hu]
    rw [get?_replace] at hu
    obtain ⟨d, hfind, rfl⟩ := Option.map_eq_some_iff.mp hu
    rw [identity_carry] at huid
    have hname : d.name = id.name := congrArg Identity.name huid
    simp [RegistryCall.probeOf, carry, hname, hget, hid, huid]
  | apply id' up now =>
    rw [RegistryCall.probeOf, call]
    by_cases hid' : id' = id
    · subst hid'
      rw [get?_apply h hget hid, if_pos rfl, if_pos rfl]
      rfl
    · rw [if_neg hid']
      by_cases hmem : id' ∈ r.identities
      · -- the other target has another name, for every name is there once
        obtain ⟨u, hu, huid⟩ := (mem_identities_iff h).mp hmem
        have hname : id.name ≠ id'.name := by
          intro hname
          rw [← hname, hget] at hu
          obtain rfl := Option.some.inj hu
          exact hid' (huid.symm.trans hid)
        rw [get?_apply h hu huid, if_neg hname, hget]
        rfl
      · rw [apply_of_notMem h hmem, hget]
        rfl

/-- The calls `before` bring a target into the registry by the last one of them, and it stays
registered with the same address and port during the calls that follow. -/
structure Epoch (id : Identity) (before during : List RegistryCall) : Prop where
  entered : ∃ earlier c, before = earlier ++ [c] ∧ id ∉ (after earlier).identities
  stays : ∀ p, p <+: during → id ∈ (after (before ++ p)).identities

/-- What happens to a target during some calls: its results have the transitions `ts`, and `t` is
its state afterwards. -/
structure EpochHistory (id : Identity) (before during : List RegistryCall) (ts : List Transition)
    (t : TargetState) : Prop where
  /-- The calls that apply its results return the transitions. -/
  answersTo_eq : answersTo id (after before) during = ts.map some
  get?_eq : (after (before ++ during)).get? id.name = some t
  /-- The transitions and the state are those of its results. -/
  history : History id (probesOf id during) ts t
  /-- All other calls leave its state alone. -/
  get?_of_probeOf_eq_none : ∀ p c s, during = p ++ c :: s → c.probeOf id = none →
    (after (before ++ p ++ [c])).get? id.name = (after (before ++ p)).get? id.name
  /-- Results for what is not registered are ignored. -/
  apply_eq_of_notMem : ∀ p id' up now s, during = p ++ .apply id' up now :: s →
    id' ∉ (after (before ++ p)).identities →
    (after (before ++ p)).apply id' up now = (after (before ++ p), none)

namespace Epoch

variable {id : Identity} {before during : List RegistryCall}

theorem get?_before (h : Epoch id before during) :
    (after before).get? id.name = some { identity := id } := by
  obtain ⟨earlier, c, rfl, hnot⟩ := h.entered
  have hmem := h.stays [] List.nil_prefix
  rw [List.append_nil, after_append_singleton] at hmem
  rw [after_append_singleton]
  exact get?_call_of_notMem (indexed_after earlier) hnot hmem

theorem of_append {s : List RegistryCall} (h : Epoch id before (during ++ s)) :
    Epoch id before during where
  entered := h.entered
  stays p hp := h.stays p (hp.trans (List.prefix_append _ _))

/-- The results of the target decide what is known about it and what its calls return. -/
theorem eq_observeAll (h : Epoch id before during) :
    (after (before ++ during)).get? id.name =
        some (TargetState.observeAll { identity := id } (probesOf id during)).1 ∧
      answersTo id (after before) during =
        (TargetState.observeAll { identity := id } (probesOf id during)).2.map some := by
  induction during using List.reverseRecOn with
  | nil => exact ⟨by rw [List.append_nil, h.get?_before]; rfl, rfl⟩
  | append_singleton during c ih =>
    obtain ⟨hget, hanswers⟩ := ih h.of_append
    have hmem := h.stays _ (List.prefix_refl _)
    rw [← List.append_assoc, after_append_singleton] at hmem ⊢
    have hid := TargetState.identity_observeAll { identity := id } (probesOf id during)
    have hcall := get?_call_of_mem (indexed_after _) hget hid hmem
    have hfold : during.foldl call (after before) = after (before ++ during) := by
      rw [after, after, List.foldl_append]
    rw [hcall, answersTo_append_singleton, hanswers, hfold, probesOf_append_singleton]
    cases hprobe : c.probeOf id with
    | none => simp
    | some probe =>
      obtain ⟨up, now⟩ := probe
      have happly := (apply_eq_some_iff (indexed_after (before ++ during))).mpr
        ⟨_, hget, hid, Eq.refl (TargetState.observe _ up now).2⟩
      simp [TargetState.observeAll_append_singleton, happly]

end Epoch

/-- **The history of a target**: whatever else happens in the registry while it is registered, its
results alone decide what is known about it and what is told. -/
theorem epoch_history {id : Identity} {before during : List RegistryCall}
    (h : Epoch id before during) : ∃ ts t, EpochHistory id before during ts t := by
  obtain ⟨hget, hanswers⟩ := h.eq_observeAll
  refine ⟨_, _, hanswers, hget, TargetState.history_observeAll id _, ?_, ?_⟩
  · rintro p c s rfl hprobe
    have hmem := h.stays (p ++ [c]) ⟨s, by simp⟩
    rw [← List.append_assoc, after_append_singleton] at hmem
    have hbefore := h.of_append.eq_observeAll.1
    rw [after_append_singleton, get?_call_of_mem (indexed_after _) hbefore
      (TargetState.identity_observeAll _ _) hmem, hprobe, hbefore]
    rfl
  · rintro p id' up now s rfl hnot
    exact apply_of_notMem (indexed_after _) hnot

/-- A target is down at its first check, comes back and stays up. Meanwhile its definition is moved
behind that of another target and then repeated with another port, which does not count, and results
come in for the other target, for another port and for a target that is not registered. -/
theorem epoch_history_interleaved :
    let id : Identity := ⟨"web", "a", 80⟩
    let before : List RegistryCall :=
      [.replace [⟨"web", "b", 80, true⟩], .apply ⟨"web", "b", 80⟩ true (.atMillis 0),
       .replace [⟨"web", "a", 80, true⟩]]
    let during : List RegistryCall :=
      [.apply ⟨"web", "b", 80⟩ true (.atMillis 1), .apply id false (.atMillis 2),
       .replace [⟨"db", "b", 80, true⟩, ⟨"web", "a", 80, true⟩, ⟨"web", "b", 80, true⟩],
       .apply ⟨"db", "b", 80⟩ false (.atMillis 3), .apply id true (.atMillis 4),
       .apply ⟨"mail", "a", 80⟩ true (.atMillis 5), .apply id true (.atMillis 6)]
    Epoch id before during ∧
      answersTo id (after before) during =
        [some ⟨.first, some ⟨.down, "web", "a", 80, .initialCheck, .atMillis 2⟩⟩,
         some ⟨.change, some ⟨.recovered, "web", "a", 80, .stateChange, .atMillis 4⟩⟩,
         some ⟨.poll, none⟩] ∧
      ∃ ts t, EpochHistory id before during ts t := by
  intro id before during
  have hstays : ∀ p ∈ during.inits, id ∈ (after (before ++ p)).identities := by decide +kernel
  have hepoch : Epoch id before during :=
    ⟨⟨before.take 2, .replace [⟨"web", "a", 80, true⟩], rfl, by decide +kernel⟩,
      fun p hp => hstays p ((List.mem_inits p during).mpr hp)⟩
  exact ⟨hepoch, by decide +kernel, epoch_history hepoch⟩

end Registry

end Uptime

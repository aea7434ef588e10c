import Mathlib.Data.List.Perm.Basic
import Uptime.History.Check
import Uptime.Proofs.Registry.View

/-!
# Results in any order

Results of probes for different targets do not interfere with each other: a registry answers each of
them as if it were the only one, and ends up in the same state whatever the order in which they come
in. Results that nothing is registered for are ignored in every order.

## Main definitions

* `ProbeResult`, `Registry.take`: the result of a probe, and how it is applied.
* `Registry.takeAll`, `Registry.answers`: what some results make of a registry, and its answers.
* `Registry.TakesAlike`: two orders of the same results come to the same.

## Main results

* `Registry.take_comm`, `Registry.take_take`: results for two targets do not interfere.
* `Registry.takesAlike_of_perm`: neither do results for any number of targets.
-/

namespace Uptime

/-- The result of a probe. -/
structure ProbeResult where
  /-- What was probed. -/
  identity : Identity
  /-- Whether it answered. -/
  up : Bool
  /-- When the probe came back. -/
  now : Instant
  deriving DecidableEq, Repr

namespace Registry

/-- Applies the result of a probe. -/
abbrev take (r : Registry) (x : ProbeResult) : Registry × Option Transition :=
  r.apply x.identity x.up x.now

/-- The registry after some results, which come in one after the other. -/
def takeAll (r : Registry) (xs : List ProbeResult) : Registry :=
  xs.foldl (fun r x => (r.take x).1) r

/-- What some results mean that come in one after the other. Those that are ignored mean
nothing. -/
def answers : Registry → List ProbeResult → List (ProbeResult × Option Transition)
  | _, [] => []
  | r, x :: xs => (x, (r.take x).2) :: answers (r.take x).1 xs

/-- The rows that are to be recorded. -/
def rows (answers : List (ProbeResult × Option Transition)) : List CheckResult :=
  answers.filterMap fun a => a.2.map fun t => ⟨a.1.identity, a.1.up, t.reason, a.1.now⟩

/-- The events that are to be told. -/
def events (answers : List (ProbeResult × Option Transition)) : List Event :=
  answers.filterMap fun a => a.2.bind Transition.event

@[simp] theorem takeAll_nil (r : Registry) : r.takeAll [] = r := rfl

@[simp] theorem takeAll_cons (r : Registry) (x : ProbeResult) (xs : List ProbeResult) :
    r.takeAll (x :: xs) = (r.take x).1.takeAll xs := rfl

/-- Results do not change what is registered. -/
@[simp] theorem identities_takeAll (r : Registry) (xs : List ProbeResult) :
    (r.takeAll xs).identities = r.identities := by
  induction xs generalizing r with
  | nil => rfl
  | cons x xs ih => rw [takeAll_cons, ih, take, identities_apply]

theorem takeAll_append (r : Registry) (xs ys : List ProbeResult) :
    r.takeAll (xs ++ ys) = (r.takeAll xs).takeAll ys := List.foldl_append

@[simp] theorem answers_cons (r : Registry) (x : ProbeResult) (xs : List ProbeResult) :
    r.answers (x :: xs) = (x, (r.take x).2) :: (r.take x).1.answers xs := rfl

theorem answers_append (r : Registry) (xs ys : List ProbeResult) :
    r.answers (xs ++ ys) = r.answers xs ++ (r.takeAll xs).answers ys := by
  induction xs generalizing r with
  | nil => rfl
  | cons x xs ih => rw [List.cons_append, answers_cons, answers_cons, ih, takeAll_cons,
      List.cons_append]

section

variable {r : Registry} {x y : ProbeResult} {t u : TargetState}

/-! ### Two results -/

theorem mem_identities_take {id : Identity} : id ∈ (r.take x).1.identities ↔ id ∈ r.identities := by
  rw [take, identities_apply]

theorem indexed_take (h : r.Indexed) (x : ProbeResult) : (r.take x).1.Indexed :=
  indexed_apply h x.identity x.up x.now

theorem take_of_notMem (h : r.Indexed) (hx : x.identity ∉ r.identities) : r.take x = (r, none) :=
  apply_of_notMem h hx

theorem take_of_get? (hget : r.get? x.identity.name = some t) (hid : t.identity = x.identity) :
    ∃ i, r.index.find? x.identity.name = some i ∧ r.targets[i]? = some t ∧
      r.take x =
        ({ r with targets := r.targets.set i (t.observe x.up x.now).1 },
          some (t.observe x.up x.now).2) :=
  apply_of_get? hget hid x.up x.now

/-- A result leaves the states of all other targets as they are. -/
theorem get?_take_of_ne (h : r.Indexed) (hget : r.get? x.identity.name = some t)
    (hid : t.identity = x.identity) (hget' : r.get? y.identity.name = some u)
    (hid' : u.identity = y.identity) (hne : x.identity ≠ y.identity) :
    (r.take x).1.get? y.identity.name = some u := by
  -- every name is registered once
  have hname : y.identity.name ≠ x.identity.name := by
    intro hname
    rw [hname, hget] at hget'
    obtain rfl : t = u := Option.some.inj hget'
    exact hne (hid.symm.trans hid')
  rw [take, get?_apply h hget hid, if_neg hname, hget']

/-- **A result means the same after another one** for a different target. -/
theorem take_take (h : r.Indexed) (hne : x.identity ≠ y.identity) :
    ((r.take x).1.take y).2 = (r.take y).2 := by
  by_cases hx : x.identity ∈ r.identities
  · by_cases hy : y.identity ∈ r.identities
    · obtain ⟨t, ht, hid⟩ := (mem_identities_iff h).mp hx
      obtain ⟨u, hu, hid'⟩ := (mem_identities_iff h).mp hy
      have hkept := get?_take_of_ne h ht hid hu hid' hne
      obtain ⟨i, -, -, heq⟩ := take_of_get? hkept hid'
      obtain ⟨j, -, -, heq'⟩ := take_of_get? hu hid'
      rw [heq, heq']
    · have hy' : y.identity ∉ (r.take x).1.identities := mt mem_identities_take.mp hy
      rw [take_of_notMem (indexed_take h x) hy', take_of_notMem h hy]
  · rw [take_of_notMem h hx]

/-- **Two results for different targets** come to the same in both orders. -/
theorem take_comm (h : r.Indexed) (hne : x.identity ≠ y.identity) :
    ((r.take x).1.take y).1 = ((r.take y).1.take x).1 := by
  by_cases hx : x.identity ∈ r.identities
  · by_cases hy : y.identity ∈ r.identities
    · obtain ⟨t, ht, hid⟩ := (mem_identities_iff h).mp hx
      obtain ⟨u, hu, hid'⟩ := (mem_identities_iff h).mp hy
      have hu' := get?_take_of_ne h ht hid hu hid' hne
      have ht' := get?_take_of_ne h hu hid' ht hid hne.symm
      obtain ⟨i, hi, hti, heqx⟩ := take_of_get? ht hid
      obtain ⟨j, hj, huj, heqy⟩ := take_of_get? hu hid'
      obtain ⟨j', hj', -, heqxy⟩ := take_of_get? hu' hid'
      obtain ⟨i', hi', -, heqyx⟩ := take_of_get? ht' hid
      -- the index has not changed, so each state is still at its place
      rw [heqx, hj] at hj'
      rw [heqy, hi] at hi'
      obtain rfl : j = j' := Option.some.inj hj'
      obtain rfl : i = i' := Option.some.inj hi'
      have hij : i ≠ j := by
        rintro rfl
        obtain rfl : t = u := Option.some.inj (hti.symm.trans huj)
        exact hne (hid.symm.trans hid')
      rw [heqxy, heqyx, heqx, heqy]
      simp only [List.set_comm _ _ hij]
    · have hy' : y.identity ∉ (r.take x).1.identities := mt mem_identities_take.mp hy
      rw [take_of_notMem (indexed_take h x) hy', take_of_notMem h hy]
  · have hx' : x.identity ∉ (r.take y).1.identities := mt mem_identities_take.mp hx
    rw [take_of_notMem h hx, take_of_notMem (indexed_take h y) hx']

/-! ### Any number of results -/

variable {xs ys : List ProbeResult}

/-- **A registry answers each result as if it were the only one**, if no two are for one target. -/
theorem answers_eq_map (h : r.Indexed) (hd : (xs.map ProbeResult.identity).Nodup) :
    r.answers xs = xs.map fun x => (x, (r.take x).2) := by
  induction xs generalizing r with
  | nil => rfl
  | cons x xs ih =>
    rw [List.map_cons, List.nodup_cons] at hd
    rw [answers_cons, ih (indexed_take h x) hd.2, List.map_cons]
    congr 1
    refine List.map_congr_left fun y hy => ?_
    have hne : x.identity ≠ y.identity := fun heq => hd.1 (heq ▸ List.mem_map_of_mem hy)
    rw [take_take h hne]

/-- The order of results for different targets does not matter to the registry. -/
theorem takeAll_of_perm (h : r.Indexed) (hperm : xs.Perm ys)
    (hd : (xs.map ProbeResult.identity).Nodup) : r.takeAll xs = r.takeAll ys := by
  induction hperm generalizing r with
  | nil => rfl
  | cons x hperm ih =>
    rw [List.map_cons, List.nodup_cons] at hd
    exact ih (indexed_take h x) hd.2
  | swap x y xs =>
    -- the two come first, so the registry is the same when the others come in
    have hne : y.identity ≠ x.identity := by
      intro heq
      simp [heq] at hd
    rw [takeAll_cons, takeAll_cons, take_comm h hne]
    rfl
  | trans hxs _ ih ih' =>
    rw [ih h hd, ih' h ((hxs.map _).nodup_iff.mp hd)]

/-- Two orders of the same results come to the same. -/
structure TakesAlike (r : Registry) (xs ys : List ProbeResult) : Prop where
  takeAll_eq : r.takeAll xs = r.takeAll ys
  /-- Each result means the same in both orders, namely what it means by itself. -/
  answers_eq : r.answers xs = xs.map fun x => (x, (r.take x).2)
  answers_eq' : r.answers ys = ys.map fun y => (y, (r.take y).2)
  /-- The same rows are to be recorded, -/
  rows_perm : (rows (r.answers xs)).Perm (rows (r.answers ys))
  /-- and the same events are to be told. -/
  events_perm : (events (r.answers xs)).Perm (events (r.answers ys))

/-- **Results for different targets come to the same in any order.** -/
theorem takesAlike_of_perm (h : r.Indexed) (hperm : xs.Perm ys)
    (hd : (xs.map ProbeResult.identity).Nodup) : r.TakesAlike xs ys := by
  have hd' : (ys.map ProbeResult.identity).Nodup := (hperm.map _).nodup_iff.mp hd
  have hanswers : (r.answers xs).Perm (r.answers ys) := by
    rw [answers_eq_map h hd, answers_eq_map h hd']
    exact hperm.map _
  exact ⟨takeAll_of_perm h hperm hd, answers_eq_map h hd, answers_eq_map h hd',
    hanswers.filterMap _, hanswers.filterMap _⟩

/-! ### The targets of results -/

/-- Results for others leave a target alone. -/
theorem get?_takeAll_of_notMem (h : r.Indexed)
    {name : String} (hname : name ∉ xs.map fun x => x.identity.name) :
    (r.takeAll xs).get? name = r.get? name := by
  induction xs generalizing r with
  | nil => rfl
  | cons x xs ih =>
    rw [List.map_cons, List.mem_cons, not_or] at hname
    rw [takeAll_cons, ih (indexed_take h x) hname.2]
    by_cases hx : x.identity ∈ r.identities
    · obtain ⟨t, hget, hid⟩ := (mem_identities_iff h).mp hx
      rw [take, get?_apply h hget hid, if_neg hname.1]
    · rw [take_of_notMem h hx]

/-- A result for a target is taken over by it, whatever comes in for others. -/
theorem get?_takeAll_of_mem (h : r.Indexed) (hd : (xs.map fun x => x.identity.name).Nodup)
    {x : ProbeResult} (hx : x ∈ xs) {t : TargetState} (hget : r.get? x.identity.name = some t)
    (hid : t.identity = x.identity) :
    (r.takeAll xs).get? x.identity.name = some (t.observe x.up x.now).1 := by
  induction xs generalizing r with
  | nil => cases hx
  | cons y xs ih =>
    rw [List.map_cons, List.nodup_cons] at hd
    rcases List.mem_cons.mp hx with rfl | hx
    · rw [takeAll_cons, get?_takeAll_of_notMem (indexed_take h x) hd.1, take,
        get?_apply h hget hid, if_pos rfl]
    · have hname : x.identity.name ∉ [y].map fun y => y.identity.name := by
        rw [List.map_singleton, List.mem_singleton]
        exact fun heq => hd.1 (heq ▸ List.mem_map_of_mem hx)
      refine ih (indexed_take h y) hd.2 hx ?_
      exact (get?_takeAll_of_notMem h hname).trans hget

/-- A row is about the target of a result. -/
theorem exists_of_mem_rows {as : List (ProbeResult × Option Transition)} {row : CheckResult}
    (h : row ∈ rows as) : ∃ x ∈ as.map Prod.fst, row.identity = x.identity := by
  obtain ⟨a, ha, hrow⟩ := List.mem_filterMap.mp h
  obtain ⟨transition, -, rfl⟩ := Option.map_eq_some_iff.mp hrow
  exact ⟨a.1, List.mem_map_of_mem ha, rfl⟩

/-- So is an event. -/
theorem exists_of_mem_events {event : Event} (h : event ∈ events (r.answers xs)) :
    ∃ x ∈ xs, event.target = x.identity.name := by
  induction xs generalizing r with
  | nil => cases h
  | cons x xs ih =>
    rw [answers_cons, events, List.filterMap_cons] at h
    cases hevent : (r.take x).2.bind Transition.event with
    | none =>
      rw [hevent] at h
      obtain ⟨y, hy, htarget⟩ := ih h
      exact ⟨y, List.mem_cons_of_mem _ hy, htarget⟩
    | some event' =>
      rw [hevent] at h
      rcases List.mem_cons.mp h with rfl | h
      · obtain ⟨transition, happly, hevent⟩ := Option.bind_eq_some_iff.mp hevent
        exact ⟨x, List.mem_cons_self, (of_apply_eq_event happly hevent).1⟩
      · obtain ⟨y, hy, htarget⟩ := ih h
        exact ⟨y, List.mem_cons_of_mem _ hy, htarget⟩

end

end Registry

end Uptime

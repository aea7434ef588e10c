import Mathlib.Data.List.Induction
import Mathlib.Data.List.Nodup
import Mathlib.Data.List.Perm.Subperm
import Mathlib.Data.String.Basic
import Mathlib.Tactic.Tauto
import Uptime.Alert.Pending
import Uptime.NameOrder

/-!
# Maps and lists by name

A map by name is kept as a list of entries. It is a map as long as no name has two of them,
and every operation keeps it one. A list that is sorted by name has the same members, the one
with the least name in front.

## Main results

* `NameMap.contains_iff`: a name has a value if it is among the names.
* `NameMap.nodup_names_insert`, `NameMap.nodup_names_erase`: maps remain maps.
* `nodup_names_eventsByTarget`, `mem_eventsByTarget_iff`, `find?_eventsByTarget`: the map of some
  events.
* `pairwise_sortByName`, `filter_sortByName`: what is sorted is in order, and members of one name
  are in the order they had.
* `sortByName_eq_of_perm`: different names can come in any order.
-/

namespace Uptime

namespace NameMap

variable {α : Type}

theorem mem_names_of_mem {m : NameMap α} {name : String} {value : α} (h : (name, value) ∈ m) :
    name ∈ m.names :=
  List.mem_map_of_mem h

/-- What is found is an entry. -/
theorem mem_of_find? {m : NameMap α} {name : String} {value : α}
    (h : m.find? name = some value) : (name, value) ∈ m := by
  induction m with
  | nil => simp at h
  | cons entry m ih =>
    rw [find?_cons] at h
    split at h
    · next hname =>
      obtain rfl : entry.2 = value := by simpa using h
      rw [hname]
      exact List.mem_cons_self
    · exact List.mem_cons_of_mem _ (ih h)

theorem contains_iff {m : NameMap α} {name : String} : m.contains name = true ↔ name ∈ m.names := by
  induction m with
  | nil => simp [contains, names]
  | cons entry m ih =>
    rw [contains, find?_cons, names, List.map_cons, List.mem_cons]
    by_cases hname : name = entry.1
    · simp [hname]
    · simpa [hname, contains, names] using ih

theorem contains_eq_false_iff {m : NameMap α} {name : String} :
    m.contains name = false ↔ name ∉ m.names := by
  rw [← contains_iff, Bool.not_eq_true]

/-- An entry of a map is what is found under its name. -/
theorem find?_of_mem {m : NameMap α} (hm : m.names.Nodup) {name : String} {value : α}
    (h : (name, value) ∈ m) : m.find? name = some value := by
  induction m with
  | nil => simp at h
  | cons entry m ih =>
    rw [names, List.map_cons, List.nodup_cons] at hm
    rw [find?_cons]
    rcases List.mem_cons.mp h with rfl | h
    · simp
    · have hne : name ≠ entry.1 := fun hname => hm.1 (hname ▸ mem_names_of_mem h)
      rw [if_neg hne]
      exact ih hm.2 h

/-- The entries of one name in a map. -/
theorem filter_eq_toList {m : NameMap α} (hm : m.names.Nodup) (name : String) :
    (m.filter fun entry => entry.1 = name) = (m.find? name).toList.map (name, ·) := by
  induction m with
  | nil => rfl
  | cons entry m ih =>
    rw [names, List.map_cons, List.nodup_cons] at hm
    rw [find?_cons]
    by_cases hname : name = entry.1
    · have hnone : ∀ other ∈ m, ¬ other.1 = name := by
        rintro ⟨key, value⟩ hother hkey
        exact hm.1 (hname ▸ hkey ▸ mem_names_of_mem hother)
      have hrest : (m.filter fun entry => entry.1 = name) = [] :=
        List.filter_eq_nil_iff.mpr (by simpa using hnone)
      rw [List.filter_cons_of_pos (by simp [hname]), hrest, if_pos hname]
      simp [hname]
    · rw [List.filter_cons_of_neg (by simpa using Ne.symm hname), if_neg hname]
      exact ih hm.2

theorem names_erase (m : NameMap α) (key : String) :
    (m.erase key).names = m.names.filter fun name => name ≠ key := by
  induction m with
  | nil => rfl
  | cons entry m ih =>
    by_cases hkey : entry.1 = key
    · simpa [erase, names, hkey] using ih
    · simpa [erase, names, hkey] using ih

theorem erase_of_find?_eq_none {m : NameMap α} {key : String} (h : m.find? key = none) :
    m.erase key = m := by
  have hkey : key ∉ m.names := contains_eq_false_iff.mp (by rw [contains, h]; rfl)
  refine List.filter_eq_self.mpr fun entry hentry => ?_
  simpa using fun hname : entry.1 = key => hkey (hname ▸ mem_names_of_mem hentry)

theorem nodup_names_erase {m : NameMap α} (hm : m.names.Nodup) (key : String) :
    (m.erase key).names.Nodup := by
  rw [names_erase]
  exact hm.filter _

theorem names_insert (m : NameMap α) (key : String) (value : α) :
    (m.insert key value).names = key :: (m.erase key).names := rfl

theorem nodup_names_insert {m : NameMap α} (hm : m.names.Nodup) (key : String) (value : α) :
    (m.insert key value).names.Nodup := by
  rw [names_insert, List.nodup_cons]
  refine ⟨?_, nodup_names_erase hm key⟩
  simp [names_erase]

/-- An insertion leaves one entry of its name. -/
theorem filter_insert_self (m : NameMap α) (key : String) (value : α) :
    ((m.insert key value).filter fun entry => entry.1 = key) = [(key, value)] := by
  rw [insert, List.filter_cons_of_pos (by simp), List.filter_eq_nil_iff.mpr]
  intro entry hentry
  simpa using (List.mem_filter.mp hentry).2

theorem mem_names_insert {m : NameMap α} {key name : String} {value : α} :
    name ∈ (m.insert key value).names ↔ name = key ∨ name ∈ m.names := by
  rw [names_insert, names_erase, List.mem_cons, List.mem_filter]
  by_cases hname : name = key <;> simp [hname]

theorem mem_erase {m : NameMap α} {key : String} {entry : String × α} :
    entry ∈ m.erase key ↔ entry ∈ m ∧ entry.1 ≠ key := by
  simp [erase]

theorem mem_insert {m : NameMap α} {key : String} {value : α} {entry : String × α} :
    entry ∈ m.insert key value ↔ entry = (key, value) ∨ entry ∈ m ∧ entry.1 ≠ key := by
  rw [insert, List.mem_cons, mem_erase]

end NameMap

/-! ### Events by the names of their targets -/

private theorem mem_of_mem_foldl_insert : ∀ (events : List Event) (m : NameMap Event)
    (entry : String × Event), entry ∈ events.foldl (fun m e => m.insert e.target e) m →
      entry ∈ m ∨ entry.2 ∈ events ∧ entry.1 = entry.2.target := by
  intro events
  induction events with
  | nil => intro m entry h; exact .inl h
  | cons e events ih =>
    intro m entry h
    rcases ih _ entry h with h | ⟨h, hname⟩
    · rcases NameMap.mem_insert.mp h with rfl | ⟨h, -⟩
      · exact .inr ⟨List.mem_cons_self, rfl⟩
      · exact .inl h
    · exact .inr ⟨List.mem_cons_of_mem _ h, hname⟩

/-- An event is kept under the name of its target. -/
theorem mem_of_mem_eventsByTarget {events : List Event} {name : String} {e : Event}
    (h : (name, e) ∈ eventsByTarget events) : e ∈ events ∧ name = e.target := by
  rcases mem_of_mem_foldl_insert events [] (name, e) h with h | h
  · simp at h
  · exact h

private theorem nodup_names_foldl_insert : ∀ (events : List Event) (m : NameMap Event),
    m.names.Nodup → (events.foldl (fun m e => m.insert e.target e) m).names.Nodup := by
  intro events
  induction events with
  | nil => intro m hm; exact hm
  | cons e events ih => intro m hm; exact ih _ (NameMap.nodup_names_insert hm _ _)

theorem nodup_names_eventsByTarget (events : List Event) :
    (eventsByTarget events).names.Nodup :=
  nodup_names_foldl_insert events [] List.nodup_nil

private theorem mem_names_foldl_insert : ∀ (events : List Event) (m : NameMap Event) (name : String),
    name ∈ (events.foldl (fun m e => m.insert e.target e) m).names ↔
      name ∈ m.names ∨ name ∈ events.map Event.target := by
  intro events
  induction events with
  | nil => intro m name; simp
  | cons e events ih =>
    intro m name
    rw [List.foldl_cons, ih, NameMap.mem_names_insert, List.map_cons, List.mem_cons]
    tauto

theorem mem_names_eventsByTarget {events : List Event} {name : String} :
    name ∈ (eventsByTarget events).names ↔ name ∈ events.map Event.target := by
  rw [eventsByTarget, mem_names_foldl_insert]
  simp [NameMap.names]

/-- Nothing is inserted over an entry whose name no later event has. -/
private theorem mem_foldl_insert_of_mem : ∀ (events : List Event) (m : NameMap Event)
    (entry : String × Event), entry ∈ m → (∀ e ∈ events, e.target ≠ entry.1) →
      entry ∈ events.foldl (fun m e => m.insert e.target e) m := by
  intro events
  induction events with
  | nil => intro m entry h _; exact h
  | cons e events ih =>
    intro m entry h hne
    refine ih _ entry ?_ fun e' he' => hne e' (List.mem_cons_of_mem _ he')
    exact NameMap.mem_insert.mpr (.inr ⟨h, (hne e List.mem_cons_self).symm⟩)

private theorem mem_foldl_insert : ∀ (events : List Event) (m : NameMap Event),
    (events.map Event.target).Nodup → ∀ e ∈ events,
      (e.target, e) ∈ events.foldl (fun m e => m.insert e.target e) m := by
  intro events
  induction events with
  | nil => intro m _ e he; simp at he
  | cons e' events ih =>
    intro m hd e he
    rw [List.map_cons, List.nodup_cons] at hd
    rcases List.mem_cons.mp he with rfl | he
    · refine mem_foldl_insert_of_mem events _ _ (NameMap.mem_insert.mpr (.inl rfl)) ?_
      intro e' he' htarget
      rw [← show e'.target = e.target from htarget] at hd
      exact hd.1 (List.mem_map_of_mem he')
    · exact ih _ hd.2 e he

/-- The map of some events with distinct targets holds each of them. -/
theorem mem_eventsByTarget_iff {events : List Event} (hd : (events.map Event.target).Nodup)
    {name : String} {e : Event} :
    (name, e) ∈ eventsByTarget events ↔ e ∈ events ∧ name = e.target := by
  constructor
  · exact mem_of_mem_eventsByTarget
  · rintro ⟨he, rfl⟩
    exact mem_foldl_insert events [] hd e he

/-- Of several events about one target the last is found. -/
theorem find?_eventsByTarget (events : List Event) (name : String) :
    (eventsByTarget events).find? name = (events.filter fun e => e.target = name).getLast? := by
  induction events using List.reverseRecOn with
  | nil => rfl
  | append_singleton events e ih =>
    have hinsert : eventsByTarget (events ++ [e]) = (eventsByTarget events).insert e.target e := by
      rw [eventsByTarget, List.foldl_append]
      rfl
    rw [hinsert, NameMap.find?_insert, ih, List.filter_append]
    by_cases hname : name = e.target
    · simp [hname]
    · simp [hname, Ne.symm hname]

/-! ### Sorted lists -/

variable {α : Type}

theorem mem_sortByName {name : α → String} {xs : List α} {x : α} :
    x ∈ sortByName name xs ↔ x ∈ xs :=
  (sortByName_perm name xs).mem_iff

private theorem pairwise_insertByName (name : α → String) (x : α) : ∀ ys : List α,
    ys.Pairwise (fun a b => name a ≤ name b) →
      (insertByName name x ys).Pairwise fun a b => name a ≤ name b := by
  intro ys
  induction ys with
  | nil => intro _; exact List.pairwise_singleton _ _
  | cons y ys ih =>
    intro h
    obtain ⟨hy, hys⟩ := List.pairwise_cons.mp h
    rw [insertByName]
    split
    · next hxy =>
      refine List.pairwise_cons.mpr ⟨fun z hz => ?_, h⟩
      rcases List.mem_cons.mp hz with rfl | hz
      · exact hxy
      · exact le_trans hxy (hy z hz)
    · next hxy =>
      refine List.pairwise_cons.mpr ⟨fun z hz => ?_, ih hys⟩
      rcases List.mem_cons.mp ((insertByName_perm name x ys).mem_iff.mp hz) with rfl | hz
      · exact le_of_not_ge hxy
      · exact hy z hz

/-- What is sorted is in order. -/
theorem pairwise_sortByName (name : α → String) (xs : List α) :
    (sortByName name xs).Pairwise fun a b => name a ≤ name b := by
  induction xs with
  | nil => exact List.Pairwise.nil
  | cons x xs ih => exact pairwise_insertByName name x _ ih

/-- An insertion puts a member before those of its name and leaves the others in their order. -/
private theorem filter_insertByName (name : α → String) (x : α) (key : String) : ∀ ys : List α,
    ((insertByName name x ys).filter fun y => name y = key) =
      (x :: ys).filter fun y => name y = key := by
  intro ys
  induction ys with
  | nil => rfl
  | cons y ys ih =>
    rw [insertByName]
    split
    · rfl
    · next hxy =>
      -- the new member passes only members of other names
      have hne : name x ≠ name y := fun h => hxy (h ▸ le_refl (name x))
      by_cases hy : name y = key
      · have hx : name x ≠ key := fun h => hne (h.trans hy.symm)
        simpa [hx, hy] using ih
      · simpa [List.filter_cons, hy] using ih

/-- **Sorting is stable**: members of one name keep their order. -/
theorem filter_sortByName (name : α → String) (xs : List α) (key : String) :
    ((sortByName name xs).filter fun x => name x = key) = xs.filter fun x => name x = key := by
  induction xs with
  | nil => rfl
  | cons x xs ih =>
    rw [sortByName_cons, filter_insertByName, List.filter_cons, List.filter_cons, ih]

/-- If all names differ, the order in which the members come does not matter. -/
theorem sortByName_eq_of_perm {name : α → String} {xs ys : List α} (h : xs.Perm ys)
    (hd : (xs.map name).Nodup) : sortByName name xs = sortByName name ys := by
  have hperm : (sortByName name xs).Perm (sortByName name ys) :=
    ((sortByName_perm name xs).trans h).trans (sortByName_perm name ys).symm
  refine hperm.eq_of_pairwise (fun a b ha hb hab hba => ?_) (pairwise_sortByName name xs)
    (pairwise_sortByName name ys)
  exact List.inj_on_of_nodup_map hd (mem_sortByName.mp ha) (h.mem_iff.mpr (mem_sortByName.mp hb))
    (le_antisymm hab hba)

end Uptime

import Uptime.Proofs.Names
import Uptime.Proofs.Registry

/-!
# Looking up targets

What the rest of the program sees of a registry are the states that it finds under names. Here
both operations are described through look-ups, so that nothing else has to look at places in
the list.

## Main definitions

* `Registry.Indexed`: the index gives the place of each name.
* `RegistryCall`, `Registry.call`, `Registry.after`: the calls of a registry, and what they
  make of an empty one.

## Main results

* `Registry.get?_eq_some_iff`, `Registry.mem_identities_iff`: what is found is what is registered.
* `Registry.get?_replace`, `Registry.get?_apply`: the operations through look-ups.
* `Registry.apply_of_notMem`: a result that nothing is registered for is ignored.
* `Registry.of_mem_targets_call`: where the states after a call come from.
-/

namespace Uptime

/-! ### Lists of states -/

theorem find?_insertNew (t : TargetState) (name : String) {ts : List TargetState}
    (h : ts.Pairwise fun a b => a.name < b.name) :
    (insertNew t ts).find? (fun u => u.name = name) =
      (ts.find? fun u => u.name = name).or (if t.name = name then some t else none) := by
  induction ts with
  | nil => by_cases ht : t.name = name <;> simp [insertNew, ht]
  | cons u ts ih =>
    obtain ⟨hu, hts⟩ := List.pairwise_cons.mp h
    rw [insertNew]
    split
    · next hlt =>
      by_cases ht : t.name = name
      · -- all names behind are greater
        have hnone : (u :: ts).find? (fun u => u.name = name) = none := by
          refine List.find?_eq_none.mpr fun v hv => ?_
          have hv : u.name ≤ v.name := by
            rcases List.mem_cons.mp hv with rfl | hv
            · exact le_refl _
            · exact le_of_lt (hu v hv)
          simpa using ne_of_gt (ht ▸ lt_of_lt_of_le hlt hv)
        simp [hnone, ht]
      · simp [List.find?_cons, ht]
    · split
      · next heq =>
        by_cases hname : u.name = name
        · simp [hname]
        · simp [hname, heq]
      · by_cases hname : u.name = name
        · simp [hname]
        · simpa [hname] using ih hts

theorem find?_foldl_insertNew (name : String) (us : List TargetState) :
    ∀ ts : List TargetState, ts.Pairwise (fun a b => a.name < b.name) →
      (us.foldl (fun ts u => insertNew u ts) ts).find? (fun u => u.name = name) =
        (ts.find? fun u => u.name = name).or (us.find? fun u => u.name = name) := by
  induction us with
  | nil => intro ts _; simp
  | cons u us ih =>
    intro ts h
    rw [List.foldl_cons, ih _ (pairwise_insertNew u h), find?_insertNew u name h, List.find?_cons]
    by_cases hu : u.name = name <;> simp [hu]

namespace Registry

/-! ### The index -/

/-- The index gives the place of each name, and knows no other names. -/
def Indexed (r : Registry) : Prop :=
  ∀ name i, r.index.find? name = some i ↔ ∃ t, r.targets[i]? = some t ∧ t.name = name

private theorem find?_zipIdx (name : String) (i : Nat) : ∀ (ts : List TargetState) (k : Nat),
    ts.Pairwise (fun a b => a.name < b.name) →
      (NameMap.find? ((ts.zipIdx k).map fun (t, i) => (t.name, i)) name = some i ↔
        ∃ j t, i = k + j ∧ ts[j]? = some t ∧ t.name = name) := by
  intro ts
  induction ts with
  | nil => intro k _; simp
  | cons u ts ih =>
    intro k h
    obtain ⟨hu, hts⟩ := List.pairwise_cons.mp h
    rw [List.zipIdx_cons, List.map_cons, NameMap.find?_cons]
    by_cases hname : name = u.name
    · rw [if_pos hname]
      constructor
      · intro hi
        exact ⟨0, u, (Option.some.inj hi).symm, rfl, hname.symm⟩
      · rintro ⟨j, t, rfl, ht, rfl⟩
        cases j with
        | zero => rfl
        | succ j => exact absurd hname (ne_of_gt (hu t (List.mem_of_getElem? ht)))
    · rw [if_neg hname, ih (k + 1) hts]
      constructor
      · rintro ⟨j, t, rfl, ht, rfl⟩
        exact ⟨j + 1, t, by omega, ht, rfl⟩
      · rintro ⟨j, t, rfl, ht, rfl⟩
        cases j with
        | zero => exact absurd (congrArg TargetState.name (Option.some.inj ht).symm) hname
        | succ j => exact ⟨j, t, by omega, ht, rfl⟩

theorem indexed_ofStates {ts : List TargetState} (h : ts.Pairwise fun a b => a.name < b.name) :
    (ofStates ts).Indexed := by
  intro name i
  refine (find?_zipIdx name i ts 0 h).trans ?_
  constructor
  · rintro ⟨j, t, rfl, ht, hname⟩
    exact ⟨t, by rwa [Nat.zero_add], hname⟩
  · rintro ⟨t, ht, hname⟩
    exact ⟨i, t, (Nat.zero_add i).symm, ht, hname⟩

section Indexed

variable {r : Registry} {name : String} {id : Identity} {t : TargetState} {up : Bool}
  {now : Instant}

/-- **What is found under a name is the state that has it.** -/
theorem get?_eq_some_iff (h : r.Indexed) :
    r.get? name = some t ↔ t ∈ r.targets ∧ t.name = name := by
  rw [get?, Option.bind_eq_bind, Option.bind_eq_some_iff]
  constructor
  · rintro ⟨i, hi, ht⟩
    obtain ⟨u, hu, hname⟩ := (h name i).mp hi
    obtain rfl : u = t := Option.some.inj (hu.symm.trans ht)
    exact ⟨List.mem_of_getElem? ht, hname⟩
  · rintro ⟨hmem, hname⟩
    obtain ⟨i, ht⟩ := List.mem_iff_getElem?.mp hmem
    exact ⟨i, (h name i).mpr ⟨t, ht, hname⟩, ht⟩

theorem mem_identities_iff (h : r.Indexed) :
    id ∈ r.identities ↔ ∃ t, r.get? id.name = some t ∧ t.identity = id := by
  rw [identities, List.mem_map]
  refine exists_congr fun t => ?_
  rw [get?_eq_some_iff h]
  constructor
  · rintro ⟨hmem, rfl⟩
    exact ⟨⟨hmem, rfl⟩, rfl⟩
  · rintro ⟨⟨hmem, -⟩, hid⟩
    exact ⟨hmem, hid⟩

/-- A state is found under its name. -/
theorem get?_of_mem (h : r.Indexed) (ht : t ∈ r.targets) : r.get? t.name = some t :=
  (get?_eq_some_iff h).mpr ⟨ht, rfl⟩

/-! ### Probe results -/

/-- A result for a registered target is taken over by its state. -/
theorem apply_of_get? (hget : r.get? id.name = some t) (hid : t.identity = id) (up : Bool)
    (now : Instant) :
    ∃ i, r.index.find? id.name = some i ∧ r.targets[i]? = some t ∧
      r.apply id up now =
        ({ r with targets := r.targets.set i (t.observe up now).1 },
          some (t.observe up now).2) := by
  rw [get?, Option.bind_eq_bind, Option.bind_eq_some_iff] at hget
  obtain ⟨i, hi, ht⟩ := hget
  refine ⟨i, hi, ht, ?_⟩
  simp only [apply, hi, ht, if_pos hid]

/-- **A result that nothing is registered for is ignored.** -/
theorem apply_of_notMem (h : r.Indexed) (hid : id ∉ r.identities) :
    r.apply id up now = (r, none) := by
  rw [apply]
  split
  · rfl
  · next i hi =>
    obtain ⟨t, ht, hname⟩ := (h _ _).mp hi
    simp only [ht]
    refine if_neg fun heq => hid ?_
    exact (mem_identities_iff h).mpr
      ⟨t, (get?_eq_some_iff h).mpr ⟨List.mem_of_getElem? ht, hname⟩, heq⟩

/-- There is a transition if the target is registered. -/
theorem apply_eq_some_iff (h : r.Indexed) {transition : Transition} :
    (r.apply id up now).2 = some transition ↔
      ∃ t, r.get? id.name = some t ∧ t.identity = id ∧ transition = (t.observe up now).2 := by
  constructor
  · intro happly
    by_cases hid : id ∈ r.identities
    · obtain ⟨t, hget, hid⟩ := (mem_identities_iff h).mp hid
      obtain ⟨i, -, -, heq⟩ := apply_of_get? hget hid up now
      rw [heq] at happly
      exact ⟨t, hget, hid, (Option.some.inj happly).symm⟩
    · rw [apply_of_notMem h hid] at happly
      cases happly
  · rintro ⟨t, hget, hid, rfl⟩
    obtain ⟨i, -, -, heq⟩ := apply_of_get? hget hid up now
    rw [heq]

theorem isSome_apply_iff (h : r.Indexed) (id : Identity) (up : Bool) (now : Instant) :
    (r.apply id up now).2.isSome ↔ id ∈ r.identities := by
  rw [Option.isSome_iff_exists, mem_identities_iff h]
  constructor
  · rintro ⟨transition, happly⟩
    obtain ⟨t, hget, hid, -⟩ := (apply_eq_some_iff h).mp happly
    exact ⟨t, hget, hid⟩
  · rintro ⟨t, hget, hid⟩
    exact ⟨_, (apply_eq_some_iff h).mpr ⟨t, hget, hid, rfl⟩⟩

/-- A list of states of which one takes over a result has the names that it had. -/
private theorem exists_getElem?_set_iff {ts : List TargetState} {i j : Nat} (ht : ts[i]? = some t)
    {u : TargetState} (hu : u.name = t.name) :
    (∃ v, (ts.set i u)[j]? = some v ∧ v.name = name) ↔ ∃ v, ts[j]? = some v ∧ v.name = name := by
  rw [List.getElem?_set]
  split
  · next hij =>
    obtain ⟨hi, -⟩ := List.getElem?_eq_some_iff.mp ht
    rw [if_pos hi, ← hij, ht]
    simp [hu]
  · rfl

theorem indexed_apply (h : r.Indexed) (id : Identity) (up : Bool) (now : Instant) :
    (r.apply id up now).1.Indexed := by
  by_cases hid : id ∈ r.identities
  · obtain ⟨t, hget, hid⟩ := (mem_identities_iff h).mp hid
    obtain ⟨i, -, ht, heq⟩ := apply_of_get? hget hid up now
    rw [heq]
    intro name j
    have hname : (t.observe up now).1.name = t.name := by
      rw [TargetState.name, TargetState.identity_observe]
    exact (h name j).trans (exists_getElem?_set_iff ht hname).symm
  · rwa [apply_of_notMem h hid]

/-- **A result through look-ups**: the target takes it over, and all others stay as they are. -/
theorem get?_apply (h : r.Indexed) (hget : r.get? id.name = some t) (hid : t.identity = id)
    (name : String) :
    (r.apply id up now).1.get? name =
      if name = id.name then some (t.observe up now).1 else r.get? name := by
  obtain ⟨i, hi, ht, heq⟩ := apply_of_get? hget hid up now
  obtain ⟨hlt, -⟩ := List.getElem?_eq_some_iff.mp ht
  rw [heq, get?]
  split
  · next hname =>
    subst hname
    simp [hi, hlt]
  · next hname =>
    rw [get?]
    cases hj : r.index.find? name with
    | none => rfl
    | some j =>
      -- another name has another place
      have hij : i ≠ j := by
        rintro rfl
        obtain ⟨u, hu, huname⟩ := (h _ _).mp hj
        obtain rfl : u = t := Option.some.inj (hu.symm.trans ht)
        exact hname (huname.symm.trans (congrArg Identity.name hid))
      simp [List.getElem?_set, hij]

theorem mem_targets_apply (h : r.Indexed) {u : TargetState}
    (hu : u ∈ (r.apply id up now).1.targets) :
    u ∈ r.targets ∨ ∃ t ∈ r.targets, t.identity = id ∧ u = (t.observe up now).1 := by
  by_cases hid : id ∈ r.identities
  · obtain ⟨t, hget, hid⟩ := (mem_identities_iff h).mp hid
    obtain ⟨i, -, ht, heq⟩ := apply_of_get? hget hid up now
    rw [heq] at hu
    rcases List.mem_or_eq_of_mem_set hu with hu | rfl
    · exact .inl hu
    · exact .inr ⟨t, List.mem_of_getElem? ht, hid, rfl⟩
  · rw [apply_of_notMem h hid] at hu
    exact .inl hu

end Indexed

/-! ### Definitions -/

@[simp] theorem identity_carry (r : Registry) (d : Definition) :
    (r.carry d).identity = d.identity := by
  rw [carry]
  split
  · split
    · assumption
    · rfl
  · rfl

/-- What is taken over with a definition has its identity and is as it was, or new. -/
theorem carry_eq (r : Registry) (d : Definition) :
    r.get? d.name = some (r.carry d) ∨ r.carry d = { identity := d.identity } := by
  rw [carry]
  split
  · next t hget =>
    split
    · exact .inl hget
    · exact .inr rfl
  · exact .inr rfl

theorem indexed_replace (r : Registry) (definitions : List Definition) :
    (r.replace definitions).Indexed :=
  indexed_ofStates (pairwise_foldl_insertNew _)

/-- The states of a registry that is in order, through look-ups. -/
private theorem get?_ofStates {ts : List TargetState}
    (h : ts.Pairwise fun a b => a.name < b.name) (name : String) :
    (ofStates ts).get? name = ts.find? fun t => t.name = name := by
  cases hfind : ts.find? fun t => t.name = name with
  | none =>
    refine Option.eq_none_iff_forall_ne_some.mpr fun t ht => ?_
    obtain ⟨hmem, hname⟩ := (get?_eq_some_iff (indexed_ofStates h)).mp ht
    exact List.find?_eq_none.mp hfind t hmem (by simpa using hname)
  | some t =>
    refine (get?_eq_some_iff (indexed_ofStates h)).mpr ⟨List.mem_of_find?_eq_some hfind, ?_⟩
    simpa using List.find?_some hfind

/-- **Definitions through look-ups**: the first one of a name that can be watched counts. -/
theorem get?_replace (r : Registry) (definitions : List Definition) (name : String) :
    (r.replace definitions).get? name =
      ((definitions.filter fun d => d.Usable).find? fun d => d.name = name).map r.carry := by
  rw [replace, get?_ofStates (pairwise_foldl_insertNew _),
    find?_foldl_insertNew _ _ _ List.Pairwise.nil, List.find?_nil, Option.none_or, List.find?_map]
  congr 2
  funext d
  simp only [Function.comp_apply, TargetState.name, identity_carry]
  rfl

theorem mem_targets_replace {r : Registry} {definitions : List Definition} {t : TargetState}
    (h : t ∈ (r.replace definitions).targets) :
    ∃ d ∈ definitions, d.Usable ∧ t = r.carry d := by
  have hget := get?_of_mem (r.indexed_replace definitions) h
  rw [get?_replace] at hget
  obtain ⟨d, hfind, rfl⟩ := Option.map_eq_some_iff.mp hget
  obtain ⟨hd, husable⟩ := List.mem_filter.mp (List.mem_of_find?_eq_some hfind)
  exact ⟨d, hd, by simpa using husable, rfl⟩

end Registry

/-! ### Calls -/

/-- A call that may change a registry. -/
inductive RegistryCall
  /-- Definitions are taken over. -/
  | replace (definitions : List Definition)
  /-- A probe result is applied. -/
  | apply (id : Identity) (up : Bool) (now : Instant)

namespace Registry

/-- The registry after a call. -/
def call (r : Registry) : RegistryCall → Registry
  | .replace definitions => r.replace definitions
  | .apply id up now => (r.apply id up now).1

/-- An empty registry after some calls. -/
def after (calls : List RegistryCall) : Registry := calls.foldl call {}

@[simp] theorem after_append_singleton (calls : List RegistryCall) (c : RegistryCall) :
    after (calls ++ [c]) = (after calls).call c := by
  rw [after, List.foldl_append]
  rfl

theorem indexed_call {r : Registry} (h : r.Indexed) (c : RegistryCall) : (r.call c).Indexed := by
  cases c with
  | replace definitions => exact r.indexed_replace definitions
  | apply id up now => exact indexed_apply h id up now

theorem indexed_after (calls : List RegistryCall) : (after calls).Indexed :=
  List.foldlRecOn (motive := Indexed) calls call (fun name i => by simp) fun _ h c _ =>
    indexed_call h c

theorem sorted_call {r : Registry} (h : r.Sorted) (c : RegistryCall) : (r.call c).Sorted := by
  cases c with
  | replace definitions => exact r.sorted_replace definitions
  | apply id up now =>
    rw [Sorted, call, identities_apply]
    exact h

theorem sorted_after (calls : List RegistryCall) : (after calls).Sorted :=
  List.foldlRecOn (motive := Sorted) calls call List.Pairwise.nil fun _ h c _ => sorted_call h c

/-- **Where the states after a call come from**: they were there, or are new with a definition, or
have taken over a result. -/
theorem of_mem_targets_call {r : Registry} (h : r.Indexed) {c : RegistryCall} {u : TargetState}
    (hu : u ∈ (r.call c).targets) :
    u ∈ r.targets ∨
      (∃ d : Definition, d.Usable ∧ u = { identity := d.identity }) ∨
      ∃ t ∈ r.targets, ∃ id up now, c = .apply id up now ∧ u = (t.observe up now).1 := by
  cases c with
  | replace definitions =>
    obtain ⟨d, -, husable, rfl⟩ := mem_targets_replace hu
    rcases r.carry_eq d with hget | hnew
    · exact .inl ((get?_eq_some_iff h).mp hget).1
    · exact .inr (.inl ⟨d, husable, hnew⟩)
  | apply id up now =>
    rcases mem_targets_apply h hu with hold | ⟨t, ht, -, rfl⟩
    · exact .inl hold
    · exact .inr (.inr ⟨t, ht, id, up, now, rfl, rfl⟩)

end Registry

end Uptime

import Mathlib.Data.List.Destutter
import Uptime.Proofs.Registry.Listing

/-!
# Taking over definitions

A list of definitions says which targets a registry holds, and of several with one name it is the
first that can be watched. What is known of a target is kept as long as its identity stays the
same. This settles the states completely, so nothing changes if the same definitions are taken over
once more, and their order matters only where a name comes up twice.

The states are inserted one by one where their names belong. Sorting all of them and then leaving
out those that have the name of the one before comes to the same, since sorting is stable.

## Main definitions

* `Definition.IsFirst`: a definition is the first of its name that can be watched.
* `Registry.Takeover`: what the states are after definitions have been taken over.

## Main results

* `Registry.targets_replace_eq_destutter`: the states are those that are left of the sorted ones.
* `Registry.takeover_replace`, `Registry.Takeover.unique`: there is one such list of states.
* `Registry.exact_replace`: definitions are taken over exactly.
-/

namespace Uptime

/-! ### Lists in strict order -/

section

variable {ts us : List TargetState} {t u : TargetState}

/-- Of states in strict order no two have one name. -/
theorem eq_of_name_eq (h : ts.Pairwise fun a b => a.name < b.name) (ht : t ∈ ts) (hu : u ∈ ts)
    (hname : t.name = u.name) : t = u :=
  List.inj_on_of_nodup_map (List.pairwise_map.mpr (h.imp fun hlt => ne_of_lt hlt)) ht hu hname

/-- States in strict order are determined by which they are. -/
theorem eq_of_mem_iff (hts : ts.Pairwise fun a b => a.name < b.name)
    (hus : us.Pairwise fun a b => a.name < b.name) (h : ∀ t, t ∈ ts ↔ t ∈ us) : ts = us := by
  have hnodup : ∀ {vs : List TargetState}, vs.Pairwise (fun a b => a.name < b.name) → vs.Nodup :=
    fun hvs => hvs.imp fun hlt heq => ne_of_lt hlt (congrArg TargetState.name heq)
  have hperm : ts.Perm us := (List.perm_ext_iff_of_nodup (hnodup hts) (hnodup hus)).mpr h
  exact hperm.eq_of_pairwise (fun a b _ _ hab hba => absurd hba (not_lt_of_gt hab)) hts hus

/-- In states in strict order a look-up by name finds every one of them. -/
theorem find?_eq_some_iff_mem (h : ts.Pairwise fun a b => a.name < b.name) :
    ts.find? (fun u => u.name = t.name) = some t ↔ t ∈ ts := by
  refine ⟨List.mem_of_find?_eq_some, fun ht => ?_⟩
  obtain ⟨u, hu⟩ := Option.isSome_iff_exists.mp
    (List.find?_isSome.mpr ⟨t, ht, by simp⟩ : (ts.find? fun u => u.name = t.name).isSome)
  have hname : u.name = t.name := by simpa using List.find?_some hu
  rw [hu, eq_of_name_eq h (List.mem_of_find?_eq_some hu) ht hname]

/-- States in strict order are determined by what is found under each name. -/
theorem eq_of_find?_eq (hts : ts.Pairwise fun a b => a.name < b.name)
    (hus : us.Pairwise fun a b => a.name < b.name)
    (h : ∀ name, ts.find? (fun t => t.name = name) = us.find? fun t => t.name = name) : ts = us :=
  eq_of_mem_iff hts hus fun t => by
    rw [← find?_eq_some_iff_mem hts, h, find?_eq_some_iff_mem hus]

end

/-! ### Sorting, and leaving out what repeats a name -/

private theorem find?_destutter' (name : String) (t : TargetState) (ts : List TargetState) :
    (ts.destutter' (fun a b => a.name ≠ b.name) t).find? (fun u => u.name = name) =
      (t :: ts).find? fun u => u.name = name := by
  induction ts generalizing t with
  | nil => rfl
  | cons u ts ih =>
    by_cases hname : t.name = u.name
    · rw [List.destutter'_cons_neg _ (by simpa using hname), ih]
      -- the one that is left out has the name of the one that is kept
      by_cases ht : t.name = name
      · simp [ht]
      · simp [ht, ← hname]
    · rw [List.destutter'_cons_pos _ hname, List.find?_cons, List.find?_cons, ih]

/-- What is left out is not found anyway. -/
theorem find?_destutter (name : String) (ts : List TargetState) :
    (ts.destutter fun a b => a.name ≠ b.name).find? (fun u => u.name = name) =
      ts.find? fun u => u.name = name := by
  cases ts with
  | nil => rfl
  | cons t ts => exact find?_destutter' name t ts

/-- What is found first before sorting is found first after it. -/
theorem find?_sortByName {α : Type} (key : α → String) (name : String) (xs : List α) :
    (sortByName key xs).find? (fun x => key x = name) = xs.find? fun x => key x = name := by
  rw [← List.head?_filter, filter_sortByName, List.head?_filter]

private theorem pairwise_destutter' (t : TargetState) {ts : List TargetState}
    (h : (t :: ts).Pairwise fun a b => a.name ≤ b.name) :
    (ts.destutter' (fun a b => a.name ≠ b.name) t).Pairwise fun a b => a.name < b.name := by
  induction ts generalizing t with
  | nil => exact List.pairwise_singleton _ _
  | cons u ts ih =>
    obtain ⟨ht, hts⟩ := List.pairwise_cons.mp h
    by_cases hname : t.name = u.name
    · rw [List.destutter'_cons_neg _ (by simpa using hname)]
      have hrest : ∀ v ∈ ts, t.name ≤ v.name := fun v hv => ht v (List.mem_cons_of_mem _ hv)
      exact ih t (List.pairwise_cons.mpr ⟨hrest, hts.of_cons⟩)
    · rw [List.destutter'_cons_pos _ hname]
      refine List.pairwise_cons.mpr ⟨fun v hv => ?_, ih u hts⟩
      -- whatever is left behind the next state is not before it
      have hlt : t.name < u.name := lt_of_le_of_ne (ht u List.mem_cons_self) hname
      rcases List.mem_cons.mp ((List.destutter'_sublist _ _ u).subset hv) with rfl | hv
      · exact hlt
      · exact lt_of_lt_of_le hlt (List.rel_of_pairwise_cons hts hv)

/-- What is left of sorted states is in strict order. -/
theorem pairwise_destutter {ts : List TargetState} (h : ts.Pairwise fun a b => a.name ≤ b.name) :
    (ts.destutter fun a b => a.name ≠ b.name).Pairwise fun a b => a.name < b.name := by
  cases ts with
  | nil => exact List.Pairwise.nil
  | cons t ts => exact pairwise_destutter' t h

namespace Registry

/-- **The states are those that are left of the sorted ones** when the ones are left out that have
the name of the one before. -/
theorem targets_replace_eq_destutter (r : Registry) (definitions : List Definition) :
    (r.replace definitions).targets =
      (sortByName TargetState.name ((definitions.filter fun d => d.Usable).map r.carry)).destutter
        fun a b => a.name ≠ b.name := by
  refine eq_of_find?_eq (pairwise_foldl_insertNew _)
    (pairwise_destutter (pairwise_sortByName _ _)) ?_
  intro name
  rw [find?_destutter, find?_sortByName, replace, ofStates,
    find?_foldl_insertNew _ _ _ List.Pairwise.nil, List.find?_nil, Option.none_or]

end Registry

/-! ### Taking over definitions -/

/-- A definition is the first of its name in a list that can be watched. -/
def Definition.IsFirst (definitions : List Definition) (d : Definition) : Prop :=
  ∃ before after, definitions = before ++ d :: after ∧ d.Usable ∧
    ∀ e ∈ before, e.Usable → e.name ≠ d.name

namespace Definition

variable {definitions : List Definition} {d : Definition} {name : String}

theorem find?_eq_some_iff :
    (definitions.filter fun d => d.Usable).find? (fun d => d.name = name) = some d ↔
      d.IsFirst definitions ∧ d.name = name := by
  rw [List.find?_filter, List.find?_eq_some_iff_append]
  constructor
  · rintro ⟨hd, before, after, rfl, hbefore⟩
    obtain ⟨husable, rfl⟩ : d.Usable ∧ d.name = name := by simpa using hd
    refine ⟨⟨before, after, rfl, husable, fun e he heusable hname => ?_⟩, rfl⟩
    simpa [heusable, hname] using hbefore e he
  · rintro ⟨⟨before, after, rfl, husable, hbefore⟩, rfl⟩
    refine ⟨by simpa using husable, before, after, rfl, fun e he => ?_⟩
    simpa [or_iff_not_imp_left] using hbefore e he

theorem IsFirst.mem (h : d.IsFirst definitions) : d ∈ definitions := by
  obtain ⟨before, after, rfl, -, -⟩ := h
  simp

theorem IsFirst.usable (h : d.IsFirst definitions) : d.Usable := by
  obtain ⟨_, _, -, husable, -⟩ := h
  exact husable

/-- There is one first definition of a name at most. -/
theorem IsFirst.eq (h : d.IsFirst definitions) {e : Definition} (he : e.IsFirst definitions)
    (hname : d.name = e.name) : d = e :=
  Option.some.inj
    ((find?_eq_some_iff.mpr ⟨h, hname⟩).symm.trans (find?_eq_some_iff.mpr ⟨he, rfl⟩))

/-- If a definition can be watched there is a first one of its name. -/
theorem exists_isFirst (hd : d ∈ definitions) (husable : d.Usable) :
    ∃ e : Definition, e.IsFirst definitions ∧ e.name = d.name := by
  have hsome : ((definitions.filter fun d => d.Usable).find? fun e => e.name = d.name).isSome := by
    rw [List.find?_isSome]
    exact ⟨d, List.mem_filter.mpr ⟨hd, by simpa using husable⟩, by simp⟩
  obtain ⟨e, he⟩ := Option.isSome_iff_exists.mp hsome
  exact ⟨e, find?_eq_some_iff.mp he⟩

/-- If all names differ every definition is the first of its name. -/
theorem isFirst_of_nodup (hd : d ∈ definitions) (husable : d.Usable)
    (hnames : ((definitions.filter fun d => d.Usable).map Definition.name).Nodup) :
    d.IsFirst definitions := by
  obtain ⟨e, he, hname⟩ := exists_isFirst hd husable
  obtain rfl : e = d := List.inj_on_of_nodup_map hnames
    (List.mem_filter.mpr ⟨he.mem, by simpa using he.usable⟩)
    (List.mem_filter.mpr ⟨hd, by simpa using husable⟩) hname
  exact he

end Definition

namespace Registry

variable {r : Registry} {definitions definitions' : List Definition} {ts us : List TargetState}

/-- What the states `ts` are after the registry `r` has taken over some definitions. -/
structure Takeover (r : Registry) (definitions : List Definition) (ts : List TargetState) :
    Prop where
  increasing : ts.Pairwise fun a b => a.name < b.name
  /-- The names are those that have a definition that can be watched. -/
  mem_names_iff : ∀ name,
    name ∈ ts.map TargetState.name ↔ ∃ d ∈ definitions, d.Usable ∧ d.name = name
  /-- Address and port are those of the first one. -/
  exists_isFirst : ∀ t ∈ ts, ∃ d : Definition, d.IsFirst definitions ∧ t.identity = d.identity
  /-- A target that was there before with that address and port is as it was. -/
  eq_of_mem : ∀ t ∈ ts, ∀ u ∈ r.targets, u.identity = t.identity → t = u
  /-- Nothing is known about any other one. -/
  eq_of_notMem : ∀ t ∈ ts, t.identity ∉ r.identities → t = { identity := t.identity }

/-- **The states are settled** by the definitions and the registry before. -/
theorem Takeover.unique (h : r.Takeover definitions ts) (h' : r.Takeover definitions us) :
    ts = us := by
  have hsubset : ∀ {ts us : List TargetState}, r.Takeover definitions ts →
      r.Takeover definitions us → ∀ t ∈ ts, t ∈ us := by
    intro ts us h h' t ht
    obtain ⟨u, hu, hname⟩ := List.mem_map.mp
      ((h'.mem_names_iff t.name).mpr ((h.mem_names_iff t.name).mp (List.mem_map_of_mem ht)))
    -- both have the identity of the first definition of their name
    obtain ⟨d, hd, htd⟩ := h.exists_isFirst t ht
    obtain ⟨e, he, hue⟩ := h'.exists_isFirst u hu
    have hde : d.name = e.name :=
      calc d.name = t.name := congrArg Identity.name htd.symm
        _ = u.name := hname.symm
        _ = e.name := congrArg Identity.name hue
    have hidentity : t.identity = u.identity := by rw [htd, hue, hd.eq he hde]
    suffices t = u from this ▸ hu
    by_cases hold : t.identity ∈ r.identities
    · obtain ⟨v, hv, hvt⟩ := List.mem_map.mp hold
      rw [h.eq_of_mem t ht v hv hvt, h'.eq_of_mem u hu v hv (hvt.trans hidentity)]
    · rw [h.eq_of_notMem t ht hold, h'.eq_of_notMem u hu (hidentity ▸ hold), hidentity]
  exact eq_of_mem_iff h.increasing h'.increasing fun t => ⟨hsubset h h' t, hsubset h' h t⟩

/-- The first definition of a name is registered. -/
theorem Takeover.exists_mem (h : r.Takeover definitions ts) {d : Definition}
    (hd : d.IsFirst definitions) : ∃ t ∈ ts, t.identity = d.identity := by
  have hmem := (h.mem_names_iff d.name).mpr ⟨d, hd.mem, hd.usable, rfl⟩
  obtain ⟨t, ht, hname⟩ := List.mem_map.mp hmem
  obtain ⟨e, he, hidentity⟩ := h.exists_isFirst t ht
  refine ⟨t, ht, hidentity.trans ?_⟩
  rw [hd.eq he (hname.symm.trans (congrArg Identity.name hidentity))]

/-- What is taken over with a definition was there before, or is new. -/
theorem carry_of_mem (h : r.Indexed) {u : TargetState} (hu : u ∈ r.targets) {d : Definition}
    (hidentity : u.identity = d.identity) : r.carry d = u := by
  have hget : r.get? d.name = some u :=
    (get?_eq_some_iff h).mpr ⟨hu, congrArg Identity.name hidentity⟩
  simp [carry, hget, hidentity]

theorem carry_of_notMem (h : r.Indexed) {d : Definition} (hnew : d.identity ∉ r.identities) :
    r.carry d = { identity := d.identity } := by
  refine (r.carry_eq d).resolve_left fun hget => hnew ?_
  have hmem := ((get?_eq_some_iff h).mp hget).1
  exact List.mem_map.mpr ⟨_, hmem, r.identity_carry d⟩

/-- **This is how definitions are taken over.** -/
theorem takeover_replace (h : r.Indexed) (definitions : List Definition) :
    r.Takeover definitions (r.replace definitions).targets := by
  have hsorted := (r.sorted_replace definitions).pairwise_targets
  have hmem : ∀ t, t ∈ (r.replace definitions).targets ↔
      ∃ d : Definition, d.IsFirst definitions ∧ r.carry d = t := by
    intro t
    have hget : (r.replace definitions).get? t.name = some t ↔
        t ∈ (r.replace definitions).targets :=
      (get?_eq_some_iff (r.indexed_replace definitions)).trans (and_iff_left rfl)
    rw [← hget, get?_replace, Option.map_eq_some_iff]
    refine exists_congr fun d => ?_
    rw [Definition.find?_eq_some_iff, and_assoc, and_congr_right_iff]
    refine fun _ => and_iff_right_of_imp ?_
    rintro rfl
    rw [TargetState.name, identity_carry]
    rfl
  refine ⟨hsorted, fun name => ?_, fun t ht => ?_, fun t ht u hu hidentity => ?_,
    fun t ht hnew => ?_⟩
  · rw [List.mem_map]
    constructor
    · rintro ⟨t, ht, rfl⟩
      obtain ⟨d, hd, rfl⟩ := (hmem t).mp ht
      exact ⟨d, hd.mem, hd.usable, by rw [TargetState.name, identity_carry]; rfl⟩
    · rintro ⟨d, hd, husable, rfl⟩
      obtain ⟨e, he, hname⟩ := Definition.exists_isFirst hd husable
      refine ⟨r.carry e, (hmem _).mpr ⟨e, he, rfl⟩, ?_⟩
      rw [TargetState.name, identity_carry, ← hname]
      rfl
  · obtain ⟨d, hd, rfl⟩ := (hmem t).mp ht
    exact ⟨d, hd, r.identity_carry d⟩
  · obtain ⟨d, -, rfl⟩ := (hmem t).mp ht
    exact carry_of_mem h hu (hidentity.trans (r.identity_carry d))
  · obtain ⟨d, -, rfl⟩ := (hmem t).mp ht
    rw [identity_carry] at hnew ⊢
    exact carry_of_notMem h hnew

/-- A registry that is a takeover already stays as it is. -/
theorem Takeover.again (h : r.Takeover definitions ts) :
    (ofStates ts).Takeover definitions ts where
  increasing := h.increasing
  mem_names_iff := h.mem_names_iff
  exists_isFirst := h.exists_isFirst
  eq_of_mem _ ht _ hu hidentity :=
    eq_of_name_eq h.increasing ht hu (congrArg Identity.name hidentity.symm)
  eq_of_notMem _ ht hnew := absurd (List.mem_map_of_mem ht) hnew

/-- If all names differ the order of the definitions does not matter. -/
theorem Takeover.of_perm (h : r.Takeover definitions ts) (hperm : definitions.Perm definitions')
    (hnames : ((definitions.filter fun d => d.Usable).map Definition.name).Nodup) :
    r.Takeover definitions' ts where
  increasing := h.increasing
  mem_names_iff name := by simp only [h.mem_names_iff, hperm.mem_iff]
  exists_isFirst t ht := by
    obtain ⟨d, hd, hidentity⟩ := h.exists_isFirst t ht
    refine ⟨d, Definition.isFirst_of_nodup (hperm.mem_iff.mp hd.mem) hd.usable ?_, hidentity⟩
    exact (((hperm.filter _).map _).nodup_iff).mp hnames
  eq_of_mem := h.eq_of_mem
  eq_of_notMem := h.eq_of_notMem

/-- How some definitions are taken over by the registry `r`. -/
structure Exact (r : Registry) (definitions : List Definition) : Prop where
  takeover : r.Takeover definitions (r.replace definitions).targets
  /-- What is found under a name is the state that has it. -/
  get?_eq_some_iff : ∀ name t, (r.replace definitions).get? name = some t ↔
    t ∈ (r.replace definitions).targets ∧ t.name = name
  /-- Taking them over once more changes nothing. -/
  replace_replace : (r.replace definitions).replace definitions = r.replace definitions
  /-- If all names differ their order does not matter. -/
  replace_of_perm : ((definitions.filter fun d => d.Usable).map Definition.name).Nodup →
    ∀ definitions', definitions.Perm definitions' → r.replace definitions' = r.replace definitions

/-- **Definitions are taken over exactly**, whatever the registry has been through. -/
theorem exact_replace (calls : List RegistryCall) (definitions : List Definition) :
    (after calls).Exact definitions := by
  have htakeover := takeover_replace (indexed_after calls) definitions
  refine ⟨htakeover, fun name t => get?_eq_some_iff (indexed_replace _ definitions), ?_, ?_⟩
  · have hagain := takeover_replace ((after calls).indexed_replace definitions) definitions
    exact congrArg ofStates (hagain.unique htakeover.again)
  · intro hnames definitions' hperm
    have hother := takeover_replace (indexed_after calls) definitions'
    exact congrArg ofStates (hother.unique (htakeover.of_perm hperm hnames))

/-- Two targets are watched and one of them is down. Then a list is taken over in which the one has
a new address, behind a definition that is switched off, and both have a second definition; and one
in which no name comes up twice, in two orders. -/
theorem exact_replace_repeated_names :
    let calls : List RegistryCall :=
      [.replace [⟨"web", "a", 80, true⟩, ⟨"db", "a", 5432, true⟩],
       .apply ⟨"web", "a", 80⟩ true (.atMillis 0), .apply ⟨"db", "a", 5432⟩ false (.atMillis 1)]
    let repeated : List Definition :=
      [⟨"web", "a", 80, false⟩, ⟨"web", "b", 80, true⟩, ⟨"db", "a", 5432, true⟩,
       ⟨"web", "a", 80, true⟩, ⟨"db", "b", 5432, true⟩]
    let distinct : List Definition := [⟨"web", "a", 80, true⟩, ⟨"db", "b", 5432, true⟩]
    (after calls).Exact repeated ∧
      ((after calls).replace repeated).targets =
        [⟨⟨"db", "a", 5432⟩, .down, some (.atMillis 1), some (.atMillis 1)⟩,
         ⟨⟨"web", "b", 80⟩, .unknown, none, none⟩] ∧
      (after calls).replace distinct.reverse = (after calls).replace distinct ∧
      ((after calls).replace distinct).targets =
        [⟨⟨"db", "b", 5432⟩, .unknown, none, none⟩,
         ⟨⟨"web", "a", 80⟩, .up, some (.atMillis 0), some (.atMillis 0)⟩] := by
  intro calls repeated distinct
  refine ⟨exact_replace calls repeated, by decide +kernel, ?_, by decide +kernel⟩
  exact (exact_replace calls distinct).replace_of_perm (by decide +kernel) distinct.reverse
    (List.reverse_perm distinct).symm

end Registry

end Uptime

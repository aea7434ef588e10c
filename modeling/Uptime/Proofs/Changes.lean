import Uptime.Proofs.AcceptedSettings
import Uptime.Proofs.Office
import Uptime.Proofs.Registry.Takeover

/-!
# Changes of the catalog

A target is written or switched off in three steps: the entry is checked, the catalog is written,
and the registry follows a new listing. Each step may fail. Up to the second one a failure leaves
everything as it was, and after it the catalog has the change, whether or not it can be listed.

The registry is rebuilt from the whole listing. A target that is stored as it is registered stays
what it was through this, even if other names are cut down to its own when they are read back: it
comes before all of them.

## Main definitions

* `ChangeRequest`: a change of the catalog as it is asked for.
* `Monitor.serve`: a change that is asked for, with its answer.
* `Monitor.Sound`: what can be relied on in a monitor at any time.
* `Monitor.Follows`: what is to be seen in the registry after a change.

## Main results

* `Catalog.isFirst_list`: what is read back as it was stored is the first of its name in a listing.
* `Monitor.Sound.follows`: what is to be seen after a change.
-/

namespace Uptime

/-- What is read back is a beginning of what was stored. -/
theorem StoredText.read_le (s : String) : read s ≤ s := by
  have hprefix : s.toList.takeWhile (· ≠ '\x00') <+: s.toList := List.takeWhile_prefix _
  rw [← not_lt, String.lt_iff_toList_lt, read, String.toList_ofList]
  exact hprefix.le

/-! ### Requests -/

/-- The name that a change is about. -/
def CatalogChange.name : CatalogChange → String
  | upsert definition => definition.name
  | disable name => name

/-- A change of the catalog as it is asked for. -/
inductive ChangeRequest
  /-- A target is to be written into the catalog. -/
  | upsert (name address : String) (port : Int)
  /-- A target is to be switched off. -/
  | delete (name : String)
  deriving DecidableEq, Repr

namespace ChangeRequest

/-- The errand of a request. -/
def errand : ChangeRequest → Errand
  | upsert name address port => .upsert name address port
  | delete name => .delete name

/-- The change that is made for a request, if that is well-formed. -/
def check : ChangeRequest → Except EntryError CatalogChange
  | upsert name address port => (Definition.ofEntry name address port).map .upsert
  | delete name => (checkName name).map .disable

/-- The change that is meant by a request. -/
def change : ChangeRequest → CatalogChange
  | upsert name address port =>
    .upsert ⟨Text.trim name, Text.trim address, UInt16.ofNat port.toNat, true⟩
  | delete name => .disable (Text.trim name)

variable {q : ChangeRequest} {change : CatalogChange}

/-- What is made for a request is what is meant. -/
theorem eq_change_of_check (h : q.check = .ok change) : change = q.change := by
  cases q with
  | upsert name address port =>
    obtain ⟨d, hentry, rfl⟩ := map_eq_ok_iff.mp h
    obtain ⟨-, -, -, rfl⟩ := Definition.ofEntry_eq_ok_iff.mp hentry
    rfl
  | delete name =>
    obtain ⟨trimmed, hname, rfl⟩ := map_eq_ok_iff.mp h
    obtain ⟨-, rfl⟩ := checkName_eq_ok_iff.mp hname
    rfl

/-- An entry that is written stands for what was typed. -/
theorem stands_of_check {name address : String} {port : Int}
    (h : (upsert name address port).check = .ok change) :
    TargetSettings.Stands ⟨name, address, port⟩
      ⟨Text.trim name, Text.trim address, UInt16.ofNat port.toNat, true⟩ := by
  obtain ⟨d, hentry, -⟩ := map_eq_ok_iff.mp h
  obtain ⟨-, -, -, hd⟩ := Definition.ofEntry_eq_ok_iff.mp hentry
  rw [← hd]
  exact TargetSettings.stands_of_definition (t := ⟨name, address, port⟩)
    (mapError_eq_ok_iff.mpr hentry)

/-- The first stage of the errand. -/
theorem start_errand (ceiling : Nat) (m : Monitor) (q : ChangeRequest) :
    q.errand.start ceiling m =
      match q.check with
      | .error error => .returned (.refused (.entry error))
      | .ok change => .writing change := by
  cases q with
  | upsert name address port =>
    rw [errand, Errand.start, check]
    cases Definition.ofEntry name address port <;> rfl
  | delete name =>
    rw [errand, Errand.start, check]
    cases checkName name <;> rfl

end ChangeRequest

namespace Monitor

/-- A change that is asked for, with its answer. -/
def serve (m : Monitor) (writing : Writing) (listingSucceeds : Bool) :
    ChangeRequest → Except ChangeError Unit × Monitor
  | .upsert name address port => m.upsert name address port writing listingSucceeds
  | .delete name => m.delete name writing listingSucceeds

/-- **What is done for a request**: it is checked, written and listed. -/
theorem serve_eq (m : Monitor) (writing : Writing) (ok : Bool) (q : ChangeRequest) :
    m.serve writing ok q =
      match q.check, writing with
      | .error error, _ => (.error (.entry error), m)
      | .ok _, .error failure => (.error (.store failure), m)
      | .ok change, .ok () => (.ok (), { m with store := m.store.change change }.sync ok) := by
  cases q with
  | upsert name address port =>
    rw [serve, upsert, ChangeRequest.check]
    cases Definition.ofEntry name address port <;> cases writing <;> rfl
  | delete name =>
    rw [serve, delete, ChangeRequest.check]
    cases checkName name <;> cases writing <;> rfl

section

variable {m m' : Monitor} {writing : Writing} {ok : Bool} {q : ChangeRequest}

/-- What is done is well-formed and can be written, and is both written and listed. -/
theorem serve_eq_ok_iff : m.serve writing ok q = (.ok (), m') ↔
    (∃ change, q.check = .ok change) ∧ writing = .ok () ∧
      m' = { m with store := m.store.change q.change }.sync ok := by
  rw [serve_eq]
  cases hcheck : q.check with
  | error error => simp
  | ok change =>
    obtain rfl := ChangeRequest.eq_change_of_check hcheck
    cases writing with
    | error failure => simp
    | ok => simp [eq_comm]

/-- An error leaves everything as it was, and tells what is at fault. -/
theorem serve_eq_error_iff {e : ChangeError} : m.serve writing ok q = (.error e, m') ↔
    m' = m ∧ ((∃ error, q.check = .error error ∧ e = .entry error) ∨
      (∃ change, q.check = .ok change) ∧ ∃ failure, writing = .error failure ∧
        e = .store failure) := by
  rw [serve_eq]
  cases q.check with
  | error error => simp [eq_comm, and_comm]
  | ok change => cases writing <;> simp [eq_comm, and_comm]

end

end Monitor

/-! ### The catalog after a change -/

namespace Catalog

variable {c : Catalog} {d e : Definition} {es : List Definition} {name : String}

theorem mem_put_self (d : Definition) (es : List Definition) : d ∈ put d es := by
  induction es with
  | nil => exact List.mem_singleton_self d
  | cons e es ih =>
    rw [put]
    split
    · exact List.mem_cons_self
    · exact List.mem_cons_of_mem _ ih

theorem mem_put_iff_of_ne (hname : e.name ≠ d.name) : e ∈ put d es ↔ e ∈ es := by
  have hne : e ≠ d := fun heq => hname (congrArg Definition.name heq)
  induction es with
  | nil => simp [put, hne]
  | cons e' es ih =>
    rw [put]
    split
    · next heq =>
      have hne' : e ≠ e' := fun h => hname (h ▸ heq)
      simp [hne, hne']
    · simp only [List.mem_cons, ih]

/-- An entry of another name is left alone. -/
theorem mem_entries_change_iff (s : Store) (change : CatalogChange)
    (hname : e.name ≠ change.name) :
    e ∈ (s.change change).catalog.entries ↔ e ∈ s.catalog.entries := by
  cases change with
  | upsert d => exact mem_put_iff_of_ne hname
  | disable name =>
    have hkeep : ∀ e' : Definition,
        (if e'.name = name then { e' with enabled := false } else e') = e ↔ e' = e := by
      intro e'
      split
      · next heq =>
        constructor
        · rintro rfl
          exact absurd heq hname
        · rintro rfl
          exact absurd heq hname
      · exact Iff.rfl
    simp only [Store.change, Store.disable, disable, List.mem_map, hkeep, exists_eq_right]

/-- The entry of a name that was switched off is off. -/
theorem enabled_of_mem_disable (he : e ∈ (c.disable name).entries) (hname : e.name = name) :
    e.enabled = false := by
  obtain ⟨e', -, rfl⟩ := List.mem_map.mp he
  by_cases hoff : e'.name = name
  · rw [if_pos hoff]
  · rw [if_neg hoff] at hname
    exact absurd hname hoff

theorem Distinct.change {s : Store} (h : s.catalog.Distinct) (change : CatalogChange) :
    (s.change change).catalog.Distinct := by
  cases change with
  | upsert d => exact h.upsert d
  | disable name => exact h.disable name

theorem Distinct.nodup_names_sortByName (h : c.Distinct) :
    ((sortByName Definition.name (c.entries.filter Definition.enabled)).map
      Definition.name).Nodup :=
  ((sortByName_perm _ _).map _).nodup_iff.mpr (h.sublist (List.filter_sublist.map _))

/-- **What is read back as it was stored is the first of its name in a listing.** -/
theorem isFirst_list (h : c.Distinct) (hd : d ∈ c.entries) (husable : d.Usable)
    (hlegible : d.Legible) : d.IsFirst c.list := by
  have hsorted := pairwise_sortByName Definition.name (c.entries.filter Definition.enabled)
  have hnames := h.nodup_names_sortByName
  have hmem : d ∈ sortByName Definition.name (c.entries.filter Definition.enabled) :=
    mem_sortByName.mpr (List.mem_filter.mpr ⟨hd, husable.1⟩)
  obtain ⟨before, after, hsplit⟩ := List.append_of_mem hmem
  rw [hsplit] at hsorted hnames
  refine ⟨before.map readBack, after.map readBack, ?_, husable, fun e he _ hname => ?_⟩
  · rw [list, hsplit, List.map_append, List.map_cons, readBack_eq_self hlegible]
  · obtain ⟨e, hbefore, rfl⟩ := List.mem_map.mp he
    -- a name that is read back as another one is not before it, and no two names are the same
    have hle : e.name ≤ d.name :=
      (List.pairwise_append.mp hsorted).2.2 e hbefore d List.mem_cons_self
    have hread : d.name ≤ e.name := hname ▸ StoredText.read_le e.name
    rw [List.map_append, List.map_cons, List.nodup_append] at hnames
    exact hnames.2.2 _ (List.mem_map_of_mem hbefore) _ List.mem_cons_self (le_antisymm hle hread)

end Catalog

namespace Registry

variable {r : Registry} {definitions : List Definition} {d : Definition} {t : TargetState}

/-- A target that was registered as it is defined stays as it was. -/
theorem mem_targets_replace_of_isFirst (h : r.Indexed) (hd : d.IsFirst definitions)
    (ht : t ∈ r.targets) (hidentity : t.identity = d.identity) :
    t ∈ (r.replace definitions).targets := by
  have htakeover := takeover_replace h definitions
  obtain ⟨u, hu, hud⟩ := htakeover.exists_mem hd
  rwa [htakeover.eq_of_mem u hu t ht (hidentity.trans hud.symm)] at hu

/-- Definitions of different names are all registered. -/
theorem mem_identities_replace (h : r.Indexed)
    (hnames : ((definitions.filter fun d => d.Usable).map Definition.name).Nodup)
    {id : Identity} :
    id ∈ (r.replace definitions).identities ↔ ∃ d ∈ definitions, d.Usable ∧ d.identity = id := by
  have htakeover := takeover_replace h definitions
  rw [identities, List.mem_map]
  constructor
  · rintro ⟨t, ht, rfl⟩
    obtain ⟨d, hd, hidentity⟩ := htakeover.exists_isFirst t ht
    exact ⟨d, hd.mem, hd.usable, hidentity.symm⟩
  · rintro ⟨d, hd, husable, rfl⟩
    exact htakeover.exists_mem (Definition.isFirst_of_nodup hd husable hnames)

/-- Definitions that cannot be watched make no difference. -/
theorem replace_congr {definitions' : List Definition}
    (h : (definitions.filter fun d => d.Usable) = definitions'.filter fun d => d.Usable) :
    r.replace definitions = r.replace definitions' := by
  rw [replace, replace, h]

theorem get?_replace_eq_none_iff {name : String} :
    (r.replace definitions).get? name = none ↔ ∀ d ∈ definitions, d.Usable → d.name ≠ name := by
  simp [get?_replace]

end Registry

/-! ### What is to be seen -/

namespace Monitor

/-- What can be relied on in a monitor at any time: no name has two entries, the index gives the
place of each name, and what is registered can be watched and has been read back. -/
structure Sound (m : Monitor) : Prop where
  distinct : m.store.catalog.Distinct
  indexed : m.registry.Indexed
  registered : ∀ id ∈ m.registry.identities,
    ∃ d : Definition, d.Usable ∧ d.Legible ∧ d.identity = id

/-- What is to be seen in the registry `r` after a change of the catalog of the monitor `m`. -/
structure Follows (m : Monitor) (q : ChangeRequest) (r : Registry) : Prop where
  /-- The registry is what the listing makes of it, -/
  replace_list : r = m.registry.replace (m.store.change q.change).catalog.list
  /-- and what the entries that are switched on make of it, exactly if those that can be watched are
  read back as they were stored. -/
  replace_entries_iff :
    r = m.registry.replace (sortByName Definition.name
        ((m.store.change q.change).catalog.entries.filter Definition.enabled)) ↔
      ∀ d ∈ (m.store.change q.change).catalog.entries, d.Usable → d.Legible
  /-- What is found is as it was before, or its identity is new and nothing is known of it. -/
  kept : ∀ name t, r.get? name = some t → m.registry.get? name = some t ∨
    t.identity ∉ m.registry.identities ∧ t = .fresh t.identity
  /-- A target that was written is found as it was typed, but for the blanks around its texts,
  exactly if these have no NUL. -/
  upserted : ∀ name address port, q = .upsert name address port →
    ((∃ t, r.get? (Text.trim name) = some t ∧ t.identity.address = Text.trim address ∧
        (t.identity.port.toNat : Int) = port) ↔
      '\x00' ∉ (Text.trim name).toList ∧ '\x00' ∉ (Text.trim address).toList)
  /-- A target that was switched off is not found, exactly if no entry of another name is read back
  as one of its name. -/
  deleted : ∀ name, q = .delete name →
    (r.get? (Text.trim name) = none ↔ ∀ d ∈ m.store.catalog.entries, d.name ≠ Text.trim name →
      (Catalog.readBack d).Usable → (Catalog.readBack d).name ≠ Text.trim name)
  /-- Any other target that is stored as it is registered is as it was. -/
  others : ∀ name t, m.registry.get? name = some t → name ≠ q.change.name →
    (∃ d ∈ m.store.catalog.entries, d.enabled = true ∧ d.identity = t.identity) →
    r.get? name = some t

variable {m : Monitor} {q : ChangeRequest} {change : CatalogChange}

/-- Reading back makes no difference to definitions that are read back as they were stored. -/
theorem filter_usable_map_readBack {ds : List Definition}
    (h : ∀ d ∈ ds, d.Usable → d.Legible) :
    ((ds.map Catalog.readBack).filter fun d => d.Usable) = ds.filter fun d => d.Usable := by
  induction ds with
  | nil => rfl
  | cons d ds ih =>
    obtain ⟨hd, hds⟩ := List.forall_mem_cons.mp h
    rw [List.map_cons, List.filter_cons, List.filter_cons, ih hds]
    by_cases husable : d.Usable
    · rw [Catalog.readBack_eq_self (hd husable)]
    · rw [if_neg (by simpa using fun h => husable (Catalog.usable_of_readBack h)),
        if_neg (by simpa using husable)]

/-- The listing says the same as the entries exactly if these are read back as they were stored. -/
theorem replace_list_eq_iff {c : Catalog} {r : Registry} (h : c.Distinct) (hr : r.Indexed) :
    r.replace c.list =
        r.replace (sortByName Definition.name (c.entries.filter Definition.enabled)) ↔
      ∀ d ∈ c.entries, d.Usable → d.Legible := by
  constructor
  · intro heq
    rw [← Catalog.mirroredBy_watched_iff h, ← r.identities_replace, heq]
    intro id
    rw [Registry.mem_identities_replace hr
      (h.nodup_names_sortByName.sublist (List.filter_sublist.map _))]
    refine exists_congr fun d => ?_
    rw [mem_sortByName, List.mem_filter, and_assoc, and_congr_right_iff]
    exact fun _ => and_iff_right_of_imp fun h => h.1.1
  · intro hlegible
    refine Registry.replace_congr (filter_usable_map_readBack fun d hd => hlegible d ?_)
    exact (List.mem_filter.mp (mem_sortByName.mp hd)).1

/-- What is registered after a listing has been read back. -/
theorem legible_of_mem_replace {c : Catalog} {r : Registry} (hr : r.Indexed) {t : TargetState}
    (ht : t ∈ (r.replace c.list).targets) :
    ∃ d : Definition, d.Usable ∧ d.Legible ∧ d.identity = t.identity := by
  obtain ⟨d, hd, hidentity⟩ := (Registry.takeover_replace hr c.list).exists_isFirst t ht
  obtain ⟨e, -, -, rfl⟩ := Catalog.mem_list.mp hd.mem
  exact ⟨_, hd.usable, Catalog.legible_readBack e, hidentity.symm⟩

theorem Sound.upserted (h : m.Sound) {name address : String} {port : Int}
    (hcheck : (ChangeRequest.upsert name address port).check = .ok change) :
    let d : Definition := ⟨Text.trim name, Text.trim address, UInt16.ofNat port.toNat, true⟩
    (∃ t, (m.registry.replace (m.store.upsert d).catalog.list).get? (Text.trim name) = some t ∧
        t.identity.address = Text.trim address ∧ (t.identity.port.toNat : Int) = port) ↔
      '\x00' ∉ (Text.trim name).toList ∧ '\x00' ∉ (Text.trim address).toList := by
  intro d
  have hindexed := m.registry.indexed_replace (m.store.upsert d).catalog.list
  constructor
  · rintro ⟨t, hget, haddress, -⟩
    obtain ⟨ht, hname⟩ := (Registry.get?_eq_some_iff hindexed).mp hget
    obtain ⟨e, -, hlegible, hidentity⟩ := legible_of_mem_replace h.indexed ht
    rw [← haddress, ← hname, TargetState.name, ← hidentity]
    exact hlegible
  · intro hlegible
    have hstands := ChangeRequest.stands_of_check hcheck
    have hfirst : d.IsFirst (m.store.upsert d).catalog.list :=
      Catalog.isFirst_list (h.distinct.upsert d) (Catalog.mem_put_self _ _) hstands.usable hlegible
    obtain ⟨t, ht, hidentity⟩ :=
      (Registry.takeover_replace h.indexed (m.store.upsert d).catalog.list).exists_mem hfirst
    refine ⟨t, (Registry.get?_eq_some_iff hindexed).mpr ⟨ht, ?_⟩, ?_, ?_⟩
    · exact congrArg Identity.name hidentity
    · exact congrArg Identity.address hidentity
    · rw [hidentity]
      exact hstands.port_eq

theorem deleted (m : Monitor) (name : String) :
    (m.registry.replace (m.store.disable name).catalog.list).get? name = none ↔
      ∀ d ∈ m.store.catalog.entries, d.name ≠ name →
        (Catalog.readBack d).Usable → (Catalog.readBack d).name ≠ name := by
  rw [Registry.get?_replace_eq_none_iff]
  constructor
  · intro hnone d hd hname husable
    have hd' : d ∈ (m.store.disable name).catalog.entries :=
      (Catalog.mem_entries_change_iff m.store (.disable name) hname).mpr hd
    exact hnone _ (Catalog.mem_list.mpr ⟨d, hd', husable.1, rfl⟩) husable
  · intro hothers e he husable
    obtain ⟨d, hd, henabled, rfl⟩ := Catalog.mem_list.mp he
    -- the entry of the name itself is off
    have hname : d.name ≠ name := fun hname => by
      rw [Catalog.enabled_of_mem_disable hd hname] at henabled
      cases henabled
    have hd' : d ∈ m.store.catalog.entries :=
      (Catalog.mem_entries_change_iff m.store (.disable name) hname).mp hd
    exact hothers d hd' hname husable

theorem Sound.kept (h : m.Sound) {definitions : List Definition} {name : String} {t : TargetState}
    (hget : (m.registry.replace definitions).get? name = some t) :
    m.registry.get? name = some t ∨ t.identity ∉ m.registry.identities ∧ t = .fresh t.identity := by
  obtain ⟨ht, rfl⟩ := (Registry.get?_eq_some_iff (m.registry.indexed_replace definitions)).mp hget
  have htakeover := Registry.takeover_replace h.indexed definitions
  by_cases hold : t.identity ∈ m.registry.identities
  · obtain ⟨u, hu, hidentity⟩ := List.mem_map.mp hold
    obtain rfl := htakeover.eq_of_mem t ht u hu hidentity
    exact .inl (Registry.get?_of_mem h.indexed hu)
  · exact .inr ⟨hold, htakeover.eq_of_notMem t ht hold⟩

theorem Sound.others (h : m.Sound) {name : String} {t : TargetState}
    (hget : m.registry.get? name = some t) (hname : name ≠ change.name)
    (hstored : ∃ d ∈ m.store.catalog.entries, d.enabled = true ∧ d.identity = t.identity) :
    (m.registry.replace (m.store.change change).catalog.list).get? name = some t := by
  obtain ⟨ht, rfl⟩ := (Registry.get?_eq_some_iff h.indexed).mp hget
  obtain ⟨d, hd, henabled, hidentity⟩ := hstored
  obtain ⟨e, husable, hlegible, heq⟩ := h.registered t.identity (List.mem_map_of_mem ht)
  -- the entry differs from what was read back by the switch at most
  obtain rfl : d = e := by
    obtain ⟨_, _, _, _⟩ := d
    obtain ⟨_, _, _, _⟩ := e
    cases hidentity.trans heq.symm
    cases henabled
    cases husable.1
    rfl
  have hd' : d ∈ (m.store.change change).catalog.entries :=
    (Catalog.mem_entries_change_iff m.store change fun heq =>
      hname ((congrArg Identity.name hidentity).symm.trans heq)).mpr hd
  have hfirst := Catalog.isFirst_list (h.distinct.change change) hd' husable hlegible
  exact Registry.get?_of_mem (m.registry.indexed_replace _)
    (Registry.mem_targets_replace_of_isFirst h.indexed hfirst ht hidentity.symm)

/-- **What is to be seen after a change of the catalog.** -/
theorem Sound.follows (h : m.Sound) (hcheck : q.check = .ok change) :
    m.Follows q (m.registry.replace (m.store.change q.change).catalog.list) where
  replace_list := rfl
  replace_entries_iff := replace_list_eq_iff (h.distinct.change q.change) h.indexed
  kept name t hget := h.kept hget
  upserted name address port hq := by
    subst hq
    exact h.upserted hcheck
  deleted name hq := by
    subst hq
    exact m.deleted (Text.trim name)
  others name t hget hname hstored := h.others hget hname hstored

end Monitor

end Uptime

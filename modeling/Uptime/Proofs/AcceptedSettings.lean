import Uptime.Monitor
import Uptime.Proofs.Seeding
import Uptime.Settings.Validation

/-!
# Accepted settings

Settings that are accepted can be started with: each target has a definition, no two of them have
one name, and an empty catalog takes all of them over. Whether all of them are watched from the
first synchronisation on depends on one thing that is not checked: a text that is read back ends
before its first NUL.

## Main definitions

* `TargetSettings.Stands`: a definition stands for a target as it was typed.
* `TargetState.fresh`: a target of which nothing is known.
* `Settings.Startable`: what settings come to when the service is started with them.

## Main results

* `Definition.ofEntry_eq_ok_iff`: which entries are well-formed, and their definitions.
* `Settings.checkTargets_eq_ok_iff`: targets are accepted if they have definitions of different
  names.
* `Registry.targets_replace_empty`: what a fresh registry makes of a listing.
* `Settings.startable_of_validate`: accepted settings can be started with.
-/

namespace Uptime

/-! ### Steps that may fail -/

theorem bind_eq_ok_iff {ε α β : Type} {x : Except ε α} {f : α → Except ε β} {b : β} :
    x >>= f = .ok b ↔ ∃ a, x = .ok a ∧ f a = .ok b := by
  cases x with
  | error e =>
    constructor
    · intro h
      cases h
    · rintro ⟨a, ha, -⟩
      cases ha
  | ok a =>
    constructor
    · exact fun h => ⟨a, rfl, h⟩
    · rintro ⟨a', ha, h⟩
      exact Except.ok.inj ha ▸ h

theorem mapM_cons_eq_ok_iff {ε α β : Type} {f : α → Except ε β} {x : α} {xs : List α}
    {ys : List β} : (x :: xs).mapM f = .ok ys ↔
      ∃ y zs, f x = .ok y ∧ xs.mapM f = .ok zs ∧ ys = y :: zs := by
  simp only [List.mapM_cons, bind_eq_ok_iff]
  constructor
  · rintro ⟨y, hy, zs, hzs, hys⟩
    exact ⟨y, zs, hy, hzs, (Except.ok.inj hys).symm⟩
  · rintro ⟨y, zs, hy, hzs, rfl⟩
    exact ⟨y, hy, zs, hzs, rfl⟩

theorem map_eq_ok_iff {ε α β : Type} {x : Except ε α} {f : α → β} {b : β} :
    x.map f = .ok b ↔ ∃ a, x = .ok a ∧ f a = b := by
  cases x <;> simp [Except.map]

theorem mapError_eq_ok_iff {ε ε' α : Type} {x : Except ε α} {f : ε → ε'} {a : α} :
    x.mapError f = .ok a ↔ x = .ok a := by
  cases x <;> simp [Except.mapError]

/-! ### Entries -/

theorem checkName_eq_ok_iff {name trimmed : String} : checkName name = .ok trimmed ↔
    (Text.trim name ≠ "" ∧ (Text.trim name).length ≤ maxNameLength) ∧
      trimmed = Text.trim name := by
  rw [checkName]
  split
  · next hempty => simp [hempty]
  · next hempty =>
    split
    · next hlong => simp [hlong]
    · next hlong => simp [hempty, not_lt.mp hlong, eq_comm]

theorem checkAddress_eq_ok_iff {address trimmed : String} : checkAddress address = .ok trimmed ↔
    (Text.trim address ≠ "" ∧ (Text.trim address).toList.any Text.isBlank = false) ∧
      trimmed = Text.trim address := by
  rw [checkAddress]
  split
  · next hempty => simp [hempty]
  · next hempty =>
    split
    · next hblank => rw [hblank]; simp
    · next hblank => rw [Bool.not_eq_true] at hblank; simp only [hblank]; simp [hempty, eq_comm]

theorem checkPort_eq_ok_iff {port : Int} {number : UInt16} : checkPort port = .ok number ↔
    (1 ≤ port ∧ port ≤ 65535) ∧ number = UInt16.ofNat port.toNat := by
  rw [checkPort]
  split
  · next hrange => simp [hrange, eq_comm]
  · next hrange => simp [hrange]

/-- **Which entries are well-formed**, and what becomes of them. -/
theorem Definition.ofEntry_eq_ok_iff {name address : String} {port : Int} {d : Definition} :
    Definition.ofEntry name address port = .ok d ↔
      (Text.trim name ≠ "" ∧ (Text.trim name).length ≤ maxNameLength) ∧
      (Text.trim address ≠ "" ∧ (Text.trim address).toList.any Text.isBlank = false) ∧
      (1 ≤ port ∧ port ≤ 65535) ∧
      d = ⟨Text.trim name, Text.trim address, UInt16.ofNat port.toNat, true⟩ := by
  simp only [Definition.ofEntry, bind_eq_ok_iff, checkName_eq_ok_iff, checkAddress_eq_ok_iff,
    checkPort_eq_ok_iff]
  constructor
  · rintro ⟨_, ⟨hname, rfl⟩, _, ⟨haddress, rfl⟩, _, ⟨hport, rfl⟩, hd⟩
    exact ⟨hname, haddress, hport, (Except.ok.inj hd).symm⟩
  · rintro ⟨hname, haddress, hport, rfl⟩
    exact ⟨_, ⟨hname, rfl⟩, _, ⟨haddress, rfl⟩, _, ⟨hport, rfl⟩, rfl⟩

/-- A definition stands for a target as it was typed: nothing is missing or changed but the blanks
around its texts. -/
structure TargetSettings.Stands (t : TargetSettings) (d : Definition) : Prop where
  name_eq : d.name = Text.trim t.name
  address_eq : d.address = Text.trim t.address
  port_eq : (d.port.toNat : Int) = t.port
  one_le_port : 1 ≤ d.port.toNat
  port_le : d.port.toNat ≤ 65535
  usable : d.Usable

theorem TargetSettings.stands_of_definition {t : TargetSettings} {d : Definition}
    (h : t.definition = .ok d) : t.Stands d := by
  obtain ⟨⟨hname, -⟩, ⟨haddress, -⟩, ⟨hone, hle⟩, rfl⟩ :=
    Definition.ofEntry_eq_ok_iff.mp (mapError_eq_ok_iff.mp h)
  have hport : (UInt16.ofNat t.port.toNat).toNat = t.port.toNat := by
    rw [UInt16.toNat_ofNat']
    omega
  have hnonzero : UInt16.ofNat t.port.toNat ≠ 0 := by
    intro hzero
    rw [hzero] at hport
    have : (0 : UInt16).toNat = 0 := rfl
    omega
  exact ⟨rfl, rfl, by dsimp only; omega, by dsimp only; omega, by dsimp only; omega,
    rfl, hname, haddress, hnonzero⟩

/-! ### Targets -/

namespace Settings

theorem checkTargets_cons_eq_ok_iff {t : TargetSettings} {ts : List TargetSettings}
    {seen : List String} : checkTargets seen (t :: ts) = .ok () ↔
      ∃ d, t.definition = .ok d ∧ Text.lower d.name ∉ seen ∧
        checkTargets (Text.lower d.name :: seen) ts = .ok () := by
  rw [checkTargets, bind_eq_ok_iff]
  refine exists_congr fun d => and_congr_right fun _ => ?_
  by_cases hseen : Text.lower d.name ∈ seen
  · rw [if_pos hseen]
    constructor
    · intro h
      cases h
    · exact fun h => absurd hseen h.1
  · rw [if_neg hseen]
    exact (and_iff_right hseen).symm

/-- **Targets are accepted** if each has a definition and no name comes up twice, whatever the case
of its letters. -/
theorem checkTargets_eq_ok_iff {ts : List TargetSettings} {seen : List String} :
    checkTargets seen ts = .ok () ↔ ∃ ds, ts.mapM TargetSettings.definition = .ok ds ∧
      (ds.map fun d => Text.lower d.name).Nodup ∧ ∀ d ∈ ds, Text.lower d.name ∉ seen := by
  induction ts generalizing seen with
  | nil =>
    constructor
    · exact fun _ => ⟨[], rfl, List.nodup_nil, by simp⟩
    · exact fun _ => rfl
  | cons t ts ih =>
    simp only [checkTargets_cons_eq_ok_iff, ih, mapM_cons_eq_ok_iff]
    constructor
    · rintro ⟨d, hd, hseen, ds, hds, hnodup, hfresh⟩
      refine ⟨d :: ds, ⟨d, ds, hd, hds, rfl⟩, ?_, ?_⟩
      · rw [List.map_cons, List.nodup_cons]
        refine ⟨fun hmem => ?_, hnodup⟩
        obtain ⟨e, he, heq⟩ := List.mem_map.mp hmem
        exact hfresh e he (heq ▸ List.mem_cons_self)
      · intro e he
        rcases List.mem_cons.mp he with rfl | he
        · exact hseen
        · exact fun hmem => hfresh e he (List.mem_cons_of_mem _ hmem)
    · rintro ⟨_, ⟨d, ds, hd, hds, rfl⟩, hnodup, hfresh⟩
      rw [List.map_cons, List.nodup_cons] at hnodup
      refine ⟨d, hd, hfresh d List.mem_cons_self, ds, hds, hnodup.2, fun e he hmem => ?_⟩
      rcases List.mem_cons.mp hmem with heq | hmem
      · exact hnodup.1 (heq ▸ List.mem_map_of_mem he)
      · exact hfresh e (List.mem_cons_of_mem _ he) hmem

/-- The targets of accepted settings are accepted. -/
theorem checkTargets_of_validate {s : Settings} (h : s.validate = .ok ()) :
    checkTargets [] s.targets = .ok () := by
  simp only [validate, bind_eq_ok_iff] at h
  obtain ⟨_, -, _, -, _, -, _, -, h⟩ := h
  exact h

theorem forall₂_stands {ts : List TargetSettings} {ds : List Definition}
    (h : ts.mapM TargetSettings.definition = .ok ds) :
    List.Forall₂ TargetSettings.Stands ts ds := by
  induction ts generalizing ds with
  | nil =>
    obtain rfl : [] = ds := Except.ok.inj h
    exact .nil
  | cons t ts ih =>
    obtain ⟨d, es, hd, hes, rfl⟩ := mapM_cons_eq_ok_iff.mp h
    exact .cons (TargetSettings.stands_of_definition hd) (ih hes)

theorem usable_of_stands {ts : List TargetSettings} {ds : List Definition}
    (h : List.Forall₂ TargetSettings.Stands ts ds) : ∀ d ∈ ds, d.Usable := by
  induction h with
  | nil => simp
  | cons hd _ ih => exact List.forall_mem_cons.mpr ⟨hd.usable, ih⟩

end Settings

/-! ### A fresh registry -/

/-- A target of which nothing is known. -/
def TargetState.fresh (id : Identity) : TargetState := { identity := id }

theorem TargetState.fresh_injective : Function.Injective TargetState.fresh :=
  fun _ _ h => congrArg TargetState.identity h

/-- **What a fresh registry makes of a listing**: it knows nothing about any target. -/
theorem Registry.targets_replace_empty (ds : List Definition) :
    (({} : Registry).replace ds).targets = (watched ds).map TargetState.fresh := by
  rw [watched, identities, List.map_map]
  refine (List.map_id _).symm.trans (List.map_congr_left fun t ht => ?_)
  obtain ⟨d, -, -, rfl⟩ := mem_targets_replace ht
  exact (carry_eq {} d).resolve_left (by simp [get?])

namespace Catalog

variable {c : Catalog}

/-- A catalog of definitions that can be watched is mirrored by all of them. -/
theorem mirroredBy_sortByName (husable : ∀ d ∈ c.entries, d.Usable) :
    c.MirroredBy ((sortByName Definition.name c.entries).map Definition.identity) := by
  intro id
  rw [List.mem_map]
  constructor
  · rintro ⟨d, hd, hid⟩
    exact ⟨d, mem_sortByName.mp hd, husable d (mem_sortByName.mp hd), hid⟩
  · rintro ⟨d, hd, -, hid⟩
    exact ⟨d, mem_sortByName.mpr hd, hid⟩

/-- Identities in the strict order of names are determined by which they are. -/
theorem MirroredBy.eq {ids ids' : List Identity} (h : c.MirroredBy ids) (h' : c.MirroredBy ids')
    (hsorted : ids.Pairwise fun a b => a.name < b.name)
    (hsorted' : ids'.Pairwise fun a b => a.name < b.name) : ids = ids' := by
  have hdiffer : ∀ {ids : List Identity}, ids.Pairwise (fun a b => a.name < b.name) → ids.Nodup :=
    fun hids => hids.imp fun hab heq => (heq ▸ hab).ne rfl
  have hperm : ids.Perm ids' := (List.perm_ext_iff_of_nodup (hdiffer hsorted)
    (hdiffer hsorted')).mpr fun id => (h id).trans (h' id).symm
  exact hperm.eq_of_pairwise (fun a b _ _ hab hba => absurd hab hba.asymm) hsorted hsorted'

/-- **A catalog of definitions that can be watched** is watched in full and in the order of names
exactly if all of it is read back as it was stored. -/
theorem watched_list_eq_iff (h : c.Distinct) (husable : ∀ d ∈ c.entries, d.Usable) :
    Registry.watched c.list = (sortByName Definition.name c.entries).map Definition.identity ↔
      ∀ d ∈ c.entries, d.Legible := by
  constructor
  · intro heq d hd
    refine (mirroredBy_watched_iff h).mp ?_ d hd (husable d hd)
    rw [heq]
    exact mirroredBy_sortByName husable
  · intro hlegible
    have hnames : ((sortByName Definition.name c.entries).map Definition.name).Nodup :=
      ((sortByName_perm Definition.name c.entries).map Definition.name).nodup_iff.mpr h
    refine ((mirroredBy_watched_iff h).mpr fun d hd _ => hlegible d hd).eq
      (mirroredBy_sortByName husable) (({} : Registry).sorted_replace c.list) ?_
    refine List.pairwise_map.mpr (((pairwise_sortByName _ _).and
      (List.pairwise_map.mp hnames)).imp fun hab => ?_)
    exact lt_of_le_of_ne hab.1 hab.2

end Catalog

/-! ### Starting -/

/-- The first synchronisation on a store. -/
def Monitor.opened (store : Store) : Monitor := ({ store } : Monitor).sync true

/-- What settings come to when the service is started with them. -/
structure Settings.Startable (s : Settings) (ds : List Definition) : Prop where
  /-- The targets have these definitions, -/
  seeds_eq : s.seeds = .ok ds
  /-- one for each, in their order, -/
  stands : List.Forall₂ TargetSettings.Stands s.targets ds
  /-- of which no two have names that differ by case only. -/
  nodup : (ds.map fun d => Text.lower d.name).Nodup
  /-- An empty catalog takes all of them over. -/
  seed_eq : ∀ store : Store, store.catalog.size = 0 →
    store.seed ds none = (some ds.length, ⟨⟨ds⟩, store.log⟩)
  /-- Then that is watched which is read back, and nothing is known of it. -/
  targets_eq : ∀ store : Store, store.catalog.size = 0 →
    (Monitor.opened (store.seed ds none).2).registry.targets =
      (Registry.watched ((sortByName Definition.name ds).map Catalog.readBack)).map
        TargetState.fresh
  /-- These are the targets, each once and in the order of names, exactly if no text has a NUL. -/
  targets_eq_iff : ∀ store : Store, store.catalog.size = 0 →
    ((Monitor.opened (store.seed ds none).2).registry.targets =
        (sortByName Definition.name ds).map (TargetState.fresh ∘ Definition.identity) ↔
      ∀ d ∈ ds, d.Legible)
  /-- A catalog with an entry, switched on or off, takes nothing over. -/
  seed_of_size_pos : ∀ store : Store, 0 < store.catalog.size →
    ∀ ds' : List Definition, store.seed ds' none = (some 0, store)

/-- What is written into an empty catalog is exactly what was given. -/
theorem Store.seed_none_of_size_eq_zero {store : Store} {ds : List Definition}
    (hempty : store.catalog.size = 0) (hnames : (ds.map Definition.name).Nodup)
    (henabled : ∀ d ∈ ds, d.enabled = true) :
    store.seed ds none = (some ds.length, ⟨⟨ds⟩, store.log⟩) := by
  have hentries : (store.upsertAll ds).catalog.entries = ds := by
    rw [entries_upsertAll_of_size_eq_zero hempty hnames]
    refine (List.map_congr_left fun d hd => ?_).trans (List.map_id ds)
    rw [← henabled d hd]
    rfl
  have hstore : store.upsertAll ds = ⟨⟨ds⟩, store.log⟩ := by
    rw [← log_upsertAll store ds]
    exact congrArg (fun es => (⟨⟨es⟩, (store.upsertAll ds).log⟩ : Store)) hentries
  by_cases hds : ds = []
  · subst hds
    rw [← hstore]
    rfl
  · rw [seed_of_size_eq_zero hempty hds, written, List.take_length, hstore]
    simp

/-- **Accepted settings can be started with.** -/
theorem Settings.startable_of_validate {s : Settings} (h : s.validate = .ok ()) :
    ∃ ds, s.Startable ds := by
  obtain ⟨ds, hseeds, hkeys, -⟩ := checkTargets_eq_ok_iff.mp (checkTargets_of_validate h)
  have hstands := forall₂_stands hseeds
  have husable : ∀ d ∈ ds, d.Usable := usable_of_stands hstands
  have hnames : (ds.map Definition.name).Nodup := by
    refine List.Nodup.of_map Text.lower ?_
    rwa [List.map_map]
  have hseed : ∀ store : Store, store.catalog.size = 0 →
      store.seed ds none = (some ds.length, ⟨⟨ds⟩, store.log⟩) := fun store hempty =>
    Store.seed_none_of_size_eq_zero hempty hnames fun d hd => (husable d hd).1
  have htargets : ∀ store : Store, store.catalog.size = 0 →
      (Monitor.opened (store.seed ds none).2).registry.targets =
        (Registry.watched (⟨ds⟩ : Catalog).list).map TargetState.fresh := by
    intro store hempty
    rw [hseed store hempty]
    exact Registry.targets_replace_empty _
  refine ⟨ds, hseeds, hstands, hkeys, hseed, ?_, ?_, ?_⟩
  · intro store hempty
    have hall : ds.filter Definition.enabled = ds :=
      List.filter_eq_self.mpr fun d hd => (husable d hd).1
    rw [htargets store hempty, Catalog.list, hall]
  · intro store hempty
    rw [htargets store hempty, ← List.map_map, TargetState.fresh_injective.list_map.eq_iff]
    exact Catalog.watched_list_eq_iff (c := ⟨ds⟩) hnames husable
  · intro store hsize ds'
    rw [Store.seed_of_size_pos hsize, if_neg (by simp)]

/-- Two targets that are accepted, typed with blanks around their names. Both are watched after the
start. Two other ones are accepted as well, but their names have a NUL and are the same before it,
so that only one of them is watched. -/
theorem Settings.startable_of_validate_two :
    let plain : Settings := { targets := [⟨" web ", "10.0.0.1", 80⟩, ⟨"db", "10.0.0.2", 5432⟩] }
    let cut : Settings := { targets := [⟨"a\x00b", "h", 1⟩, ⟨"a\x00c", "h", 2⟩] }
    (∃ ds, plain.Startable ds) ∧ (∃ ds, cut.Startable ds) ∧
      (plain.seeds.map fun ds =>
        (Monitor.opened (({} : Store).seed ds none).2).registry.identities) =
        .ok [⟨"db", "10.0.0.2", 5432⟩, ⟨"web", "10.0.0.1", 80⟩] ∧
      (cut.seeds.map fun ds =>
        (Monitor.opened (({} : Store).seed ds none).2).registry.identities) =
        .ok [⟨"a", "h", 1⟩] :=
  ⟨startable_of_validate (by decide +kernel), startable_of_validate (by decide +kernel),
    by decide +kernel, by decide +kernel⟩

end Uptime

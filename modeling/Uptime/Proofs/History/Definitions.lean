import Mathlib.Data.List.Dedup
import Uptime.Proofs.ByteOrder
import Uptime.Proofs.Changes
import Uptime.Proofs.History

/-!
# Histories of the catalog

What a catalog says about a name is what was last done about it: the definition that was written
last, unless the name was switched off since. A name that was ever written keeps its entry, so that
the entries are as many as the names. Recorded results are no business of the catalog, nor are
definitions of the check log.

## Main definitions

* `Catalog.change`, `changes`: a change of a catalog, and those that a history of the store makes.
* `lastChange?`: the change that was last made about a name.
* `CatalogHolds`: what a catalog holds after some changes.
* `Store.Lists`: what a catalog lists and counts after a history.

## Main results

* `CatalogHolds.change`: what one more change does to a catalog.
* `Store.catalog_run`: a history is to the catalog what its changes are.
* `Store.log_run`: the check log depends on what was recorded and dropped alone.
* `Store.lists_run`: what a catalog lists and counts.
-/

namespace Uptime

/-! ### Changes of a catalog -/

/-- The change that was last made about a name. -/
def lastChange? (cs : List CatalogChange) (name : String) : Option CatalogChange :=
  cs.reverse.find? fun c => c.name = name

theorem lastChange?_concat (cs : List CatalogChange) (c : CatalogChange) (name : String) :
    lastChange? (cs ++ [c]) name = if c.name = name then some c else lastChange? cs name := by
  rw [lastChange?, List.reverse_append, List.reverse_singleton, List.singleton_append,
    List.find?_cons]
  by_cases h : c.name = name <;> simp [h, lastChange?]

/-- The name that a change writes. -/
def CatalogChange.written? : CatalogChange → Option String
  | upsert d => some d.name
  | disable _ => none

/-- The names that some changes have written. -/
def writtenNames (cs : List CatalogChange) : List String := cs.filterMap CatalogChange.written?

namespace Catalog

/-- The catalog after a change. -/
def change (c : Catalog) : CatalogChange → Catalog
  | .upsert d => c.upsert d
  | .disable name => c.disable name

variable {c : Catalog} {d e : Definition} {name : String}

theorem mem_names_put (d : Definition) (es : List Definition) :
    name ∈ (put d es).map Definition.name ↔ name ∈ es.map Definition.name ∨ name = d.name := by
  rcases map_name_put d es with heq | ⟨-, heq⟩
  · have hmem : d.name ∈ es.map Definition.name := by
      rw [← heq]
      exact List.mem_map_of_mem (mem_put_self d es)
    rw [heq]
    exact (or_iff_left_of_imp fun h : name = d.name => h ▸ hmem).symm
  · rw [heq, List.mem_append, List.mem_singleton]

theorem names_disable (c : Catalog) (name : String) :
    (c.disable name).entries.map Definition.name = c.entries.map Definition.name := by
  rw [disable, List.map_map]
  refine List.map_congr_left fun e _ => ?_
  by_cases he : e.name = name <;> simp [he]

/-- To switch off a name without an entry is to do nothing. -/
theorem disable_of_notMem (h : name ∉ c.entries.map Definition.name) : c.disable name = c := by
  have hsame : ∀ e ∈ c.entries,
      (if e.name = name then { e with enabled := false } else e) = e := by
    intro e he
    refine if_neg ?_
    rintro rfl
    exact h (List.mem_map_of_mem he)
  rw [disable, List.map_congr_left hsame, List.map_id']

/-- What is switched on comes in strict order. -/
theorem Distinct.increasing (h : c.Distinct) :
    (sortByName Definition.name (c.entries.filter Definition.enabled)).Pairwise
      fun a b => a.name < b.name := by
  have hne : (sortByName Definition.name (c.entries.filter Definition.enabled)).Pairwise
      fun a b => a.name ≠ b.name := List.pairwise_map.mp h.nodup_names_sortByName
  exact ((pairwise_sortByName Definition.name _).and hne).imp fun hab => lt_of_le_of_ne hab.1 hab.2

end Catalog

/-- What a catalog holds after some changes. -/
structure CatalogHolds (cs : List CatalogChange) (c : Catalog) : Prop where
  distinct : c.Distinct
  /-- Every name that was written has an entry. -/
  mem_names_iff : ∀ name, name ∈ c.entries.map Definition.name ↔ name ∈ writtenNames cs
  /-- What is switched on is what was written last about its name. -/
  enabled_iff : ∀ e, (e ∈ c.entries ∧ e.enabled = true) ↔
    ∃ d, lastChange? cs e.name = some (.upsert d) ∧ e = { d with enabled := true }

namespace CatalogHolds

variable {cs : List CatalogChange} {c : Catalog} {d e : Definition} {name : String}

theorem nil : CatalogHolds [] {} := ⟨List.nodup_nil, by simp [writtenNames], by simp [lastChange?]⟩

/-- A definition is written. -/
theorem upsert (h : CatalogHolds cs c) (d : Definition) :
    CatalogHolds (cs ++ [.upsert d]) (c.upsert d) where
  distinct := h.distinct.upsert d
  mem_names_iff name := by
    rw [Catalog.upsert, Catalog.mem_names_put, h.mem_names_iff, writtenNames, writtenNames,
      List.filterMap_append, List.mem_append]
    simp [CatalogChange.written?]
  enabled_iff e := by
    rw [lastChange?_concat]
    split
    · next hname =>
      -- there is one entry of the name, which is the definition
      constructor
      · rintro ⟨he, -⟩
        refine ⟨d, rfl, ?_⟩
        exact List.inj_on_of_nodup_map (h.distinct.upsert d) he (Catalog.mem_put_self _ _)
          (Eq.symm hname)
      · rintro ⟨d', heq, rfl⟩
        obtain rfl : d = d' := CatalogChange.upsert.inj (Option.some.inj heq)
        exact ⟨Catalog.mem_put_self _ _, rfl⟩
    · next hname =>
      rw [← h.enabled_iff]
      exact and_congr_left' (Catalog.mem_put_iff_of_ne (Ne.symm hname))

/-- The definition of a name is switched off. -/
theorem disable (h : CatalogHolds cs c) (name : String) :
    CatalogHolds (cs ++ [.disable name]) (c.disable name) where
  distinct := h.distinct.disable name
  mem_names_iff name' := by
    rw [Catalog.names_disable, h.mem_names_iff, writtenNames, writtenNames, List.filterMap_append]
    simp [CatalogChange.written?]
  enabled_iff e := by
    rw [lastChange?_concat]
    split
    · next hname =>
      constructor
      · rintro ⟨he, henabled⟩
        rw [Catalog.enabled_of_mem_disable he (Eq.symm hname)] at henabled
        cases henabled
      · rintro ⟨d, heq, -⟩
        cases heq
    · next hname =>
      rw [← h.enabled_iff]
      exact and_congr_left'
        (Catalog.mem_entries_change_iff ⟨c, {}⟩ (.disable name) (Ne.symm hname))

/-- **What one more change does to a catalog.** -/
theorem change (h : CatalogHolds cs c) (ch : CatalogChange) :
    CatalogHolds (cs ++ [ch]) (c.change ch) := by
  cases ch with
  | upsert d => exact h.upsert d
  | disable name => exact h.disable name

theorem foldl_change (cs : List CatalogChange) : CatalogHolds cs (cs.foldl Catalog.change {}) := by
  induction cs using List.reverseRecOn with
  | nil => exact nil
  | append_singleton cs ch ih =>
    rw [List.foldl_append]
    exact ih.change ch

/-- The entries are as many as the names that were written. -/
theorem size_eq (h : CatalogHolds cs c) : c.size = (writtenNames cs).dedup.length := by
  have hperm : (c.entries.map Definition.name).Perm (writtenNames cs).dedup := by
    rw [List.perm_ext_iff_of_nodup h.distinct (List.nodup_dedup _)]
    intro name
    rw [h.mem_names_iff, List.mem_dedup]
  rw [← hperm.length_eq, List.length_map, Catalog.size]

end CatalogHolds

/-! ### Changes that a history makes -/

/-- The changes that an operation of the store makes to its catalog. Seeding writes definitions if
there is none. -/
def Catalog.changesOf (c : Catalog) : StoreOp → List CatalogChange
  | .append _ => []
  | .prune _ => []
  | .upsert d => [.upsert d]
  | .disable name => [.disable name]
  | .seed ds failsAt =>
    if c.size = 0 then (ds.take (Store.written ds.length failsAt)).map .upsert else []

/-- The changes that operations of the store make from some catalog on. -/
def changesFrom (c : Catalog) : List StoreOp → List CatalogChange
  | [] => []
  | op :: ops => c.changesOf op ++ changesFrom ((c.changesOf op).foldl Catalog.change c) ops

/-- The changes that a history of the store makes to its catalog. -/
def changes (ops : List StoreOp) : List CatalogChange := changesFrom {} ops

/-- Whether an operation of the store is about definitions. The others are about the check log. -/
def StoreOp.isDefinition : StoreOp → Bool
  | append _ | prune _ => false
  | upsert _ | disable _ | seed _ _ => true

namespace Store

theorem catalog_upsertAll (s : Store) (ds : List Definition) :
    (s.upsertAll ds).catalog = (ds.map CatalogChange.upsert).foldl Catalog.change s.catalog := by
  induction ds generalizing s with
  | nil => rfl
  | cons d ds ih =>
    rw [upsertAll_cons, ih]
    rfl

/-- An operation is to the catalog what its changes are. -/
theorem catalog_operate (s : Store) (op : StoreOp) :
    (s.operate op).catalog = (s.catalog.changesOf op).foldl Catalog.change s.catalog := by
  cases op with
  | append r => rfl
  | prune cutoff => rfl
  | upsert d => rfl
  | disable name => rfl
  | seed ds failsAt =>
    rw [operate, Catalog.changesOf]
    rcases Nat.eq_zero_or_pos s.catalog.size with hempty | hsize
    · rw [if_pos hempty]
      by_cases hds : ds = []
      · simp [seed, hds]
      · rw [seed_of_size_eq_zero hempty hds, catalog_upsertAll]
    · rw [if_neg (Nat.ne_of_gt hsize), seed_of_size_pos hsize]
      rfl

theorem catalog_foldl_operate (s : Store) (ops : List StoreOp) :
    (ops.foldl operate s).catalog = (changesFrom s.catalog ops).foldl Catalog.change s.catalog := by
  induction ops generalizing s with
  | nil => rfl
  | cons op ops ih => rw [List.foldl_cons, ih, catalog_operate, changesFrom, List.foldl_append]

/-- **A history is to the catalog what its changes are.** -/
theorem catalog_run (ops : List StoreOp) :
    (run ops).catalog = (changes ops).foldl Catalog.change {} :=
  catalog_foldl_operate {} ops

/-- Operations on the check log make no changes. -/
theorem changesFrom_filter (c : Catalog) (ops : List StoreOp) :
    changesFrom c (ops.filter StoreOp.isDefinition) = changesFrom c ops := by
  induction ops generalizing c with
  | nil => rfl
  | cons op ops ih =>
    cases op with
    | append r => exact ih c
    | prune cutoff => exact ih c
    | upsert d => exact congrArg (_ ++ ·) (ih _)
    | disable name => exact congrArg (_ ++ ·) (ih _)
    | seed ds failsAt => exact congrArg (_ ++ ·) (ih _)

/-- Operations on definitions leave the check log as it is. -/
theorem log_operate_of_isDefinition (s : Store) {op : StoreOp} (h : op.isDefinition = true) :
    (s.operate op).log = s.log := by
  cases op with
  | append r => cases h
  | prune cutoff => cases h
  | upsert d => rfl
  | disable name => rfl
  | seed ds failsAt => exact log_seed s ds failsAt

theorem log_operate_congr {s s' : Store} (h : s.log = s'.log) {op : StoreOp}
    (hop : op.isDefinition = false) : (s.operate op).log = (s'.operate op).log := by
  cases op with
  | append r => rw [operate, operate, append, append, h]
  | prune cutoff => rw [operate, operate, prune, prune, h]
  | upsert d => cases hop
  | disable name => cases hop
  | seed ds failsAt => cases hop

theorem log_foldl_operate {s s' : Store} (h : s.log = s'.log) (ops : List StoreOp) :
    (ops.foldl operate s).log = ((ops.filter fun op => !op.isDefinition).foldl operate s').log := by
  induction ops generalizing s s' with
  | nil => exact h
  | cons op ops ih =>
    cases hop : op.isDefinition with
    | false =>
      rw [List.filter_cons_of_pos (by simp [hop])]
      exact ih (log_operate_congr h hop)
    | true =>
      rw [List.filter_cons_of_neg (by simp [hop])]
      exact ih ((log_operate_of_isDefinition s hop).trans h)

/-- **The check log depends on what was recorded and dropped alone.** -/
theorem log_run (ops : List StoreOp) :
    (run ops).log = (run (ops.filter fun op => !op.isDefinition)).log :=
  log_foldl_operate rfl ops

/-! ### What is listed -/

/-- What a catalog lists and counts after a history, where some definitions are those that are
switched on. -/
structure Lists (ops : List StoreOp) (stored : List Definition) : Prop where
  /-- The names are those whose last change has written them, and they are defined as it has written
  them. -/
  mem_iff : ∀ e, e ∈ stored ↔
    ∃ d, lastChange? (changes ops) e.name = some (.upsert d) ∧ e = { d with enabled := true }
  /-- Each of them is there once, in the order of their bytes. -/
  increasing : stored.Pairwise fun a b =>
    a.name.toByteArray.data.toList < b.name.toByteArray.data.toList
  /-- They are listed as they are read back, -/
  list_eq : (run ops).catalog.list = stored.map Catalog.readBack
  /-- and as they were written exactly if there is no NUL in them. -/
  list_eq_iff : (run ops).catalog.list = stored ↔ ∀ e ∈ stored, e.Legible
  /-- All names are counted that were ever written, each once. -/
  size_eq : (run ops).catalog.size = (writtenNames (changes ops)).dedup.length
  /-- To switch off a name does not change their number, -/
  size_disable : ∀ name, (run (ops ++ [.disable name])).catalog.size = (run ops).catalog.size
  /-- and if it was never written, it changes nothing. -/
  disable_unknown : ∀ name, name ∉ writtenNames (changes ops) →
    run (ops ++ [.disable name]) = run ops
  /-- The check log has no say in it, -/
  catalog_eq : (run ops).catalog = (run (ops.filter StoreOp.isDefinition)).catalog
  /-- and is left alone by it. -/
  log_eq : (run ops).log = (run (ops.filter fun op => !op.isDefinition)).log

/-- **What a catalog lists and counts** after any history of the store. -/
theorem lists_run (ops : List StoreOp) :
    Lists ops (sortByName Definition.name
      ((run ops).catalog.entries.filter Definition.enabled)) := by
  have hholds : CatalogHolds (changes ops) (run ops).catalog :=
    catalog_run ops ▸ CatalogHolds.foldl_change (changes ops)
  refine ⟨fun e => ?_, ?_, rfl, ?_, hholds.size_eq, fun name => ?_, fun name hname => ?_, ?_,
    log_run ops⟩
  · rw [mem_sortByName, List.mem_filter, hholds.enabled_iff]
  · exact hholds.distinct.increasing.imp toByteArray_lt_iff.mpr
  · rw [Catalog.list]
    conv => lhs; rhs; rw [← List.map_id (sortByName _ _)]
    rw [List.map_inj_left]
    refine forall₂_congr fun e _ => ⟨fun h => ?_, Catalog.readBack_eq_self⟩
    have hread : Catalog.readBack e = e := h
    rw [← hread]
    exact Catalog.legible_readBack e
  · rw [run_concat]
    exact Catalog.size_disable _ name
  · rw [run_concat, operate, disable,
      Catalog.disable_of_notMem ((hholds.mem_names_iff name).not.mpr hname)]
  · rw [catalog_run, catalog_run, changes, changes, changesFrom_filter]

/-- Four names are written, one of them twice, and two of them are switched off, of which one is
written again. Two names that agree up to a NUL are listed as one and the same, with the address cut
as well. -/
theorem lists_run_cut :
    let web : Definition := ⟨"web", "10.0.0.1", 80, true⟩
    let rack (name address : String) (port : UInt16) : Definition := ⟨name, address, port, true⟩
    let ops : List StoreOp :=
      [.upsert web, .upsert (rack "rack\x002" "h\x00x" 2), .prune (.atMillis 0),
        .upsert (rack "rack\x001" "h" 1), .upsert { web with port := 65535 }, .disable "web",
        .upsert (rack "db" "h" 5432), .disable "db", .disable "mail",
        .upsert { web with port := 0 }]
    let stored := [rack "rack\x001" "h" 1, rack "rack\x002" "h\x00x" 2, { web with port := 0 }]
    Lists ops stored ∧ (run ops).catalog.list = [rack "rack" "h" 1, rack "rack" "h" 2,
      { web with port := 0 }] ∧ (run ops).catalog.list ≠ stored ∧ (run ops).catalog.size = 4 := by
  intro web rack ops stored
  have hstored : sortByName Definition.name
      ((run ops).catalog.entries.filter Definition.enabled) = stored := by decide +kernel
  exact ⟨hstored ▸ lists_run ops, by decide +kernel, by decide +kernel, by decide +kernel⟩

end Store

end Uptime

import Uptime.History.Catalog
import Uptime.Proofs.Names
import Uptime.Proofs.Registry.View

/-!
# What is watched after a listing

A registry that adopts a listing watches what the listing says, whatever it has watched before. If
the listing is that of a catalog, this is what the catalog has switched on and can be watched, as
long as its texts are read back as they were stored.

## Main definitions

* `Registry.watched`: what is watched after a listing.
* `Catalog.Distinct`, `Catalog.MirroredBy`: no name has two entries, and what a catalog says is
  watched.
* `Definition.Legible`: a definition is read back as it was stored.

## Main results

* `Registry.identities_replace`: what is watched follows from the listing.
* `Catalog.mirroredBy_watched_iff`: it is what the catalog says exactly if that is legible.
-/

namespace Uptime

/-! ### Listings -/

/-- Insertion goes by identities. -/
theorem map_identity_insertNew {t u : TargetState} (htu : t.identity = u.identity)
    {ts us : List TargetState}
    (h : ts.map TargetState.identity = us.map TargetState.identity) :
    (insertNew t ts).map TargetState.identity = (insertNew u us).map TargetState.identity := by
  induction ts generalizing us with
  | nil =>
    obtain rfl := List.map_eq_nil_iff.mp h.symm
    simp [insertNew, htu]
  | cons v ts ih =>
    obtain ⟨w, us, rfl, hvw, hrest⟩ := List.map_eq_cons_iff.mp h.symm
    have hnext := ih hrest.symm
    simp only [insertNew, TargetState.name, htu, hvw]
    split
    · simp [htu, hvw, hrest]
    · split
      · simp [hvw, hrest]
      · simp [hvw, hnext]

namespace Registry

/-- What is watched after a listing. -/
def watched (definitions : List Definition) : List Identity :=
  (({} : Registry).replace definitions).identities

/-- **What is watched follows from the listing alone.** -/
theorem identities_replace (r : Registry) (definitions : List Definition) :
    (r.replace definitions).identities = watched definitions := by
  -- what is known of a target is carried over, but has no say in where it is inserted
  have hfold : ∀ (ds : List Definition) (q : Registry) (ts us : List TargetState),
      ts.map TargetState.identity = us.map TargetState.identity →
      ((ds.map r.carry).foldl (fun ts t => insertNew t ts) ts).map TargetState.identity =
        ((ds.map q.carry).foldl (fun ts t => insertNew t ts) us).map TargetState.identity := by
    intro ds q
    induction ds with
    | nil => exact fun ts us h => h
    | cons d ds ih =>
      exact fun ts us h => ih _ _ (map_identity_insertNew (by simp) h)
  exact hfold _ {} [] [] rfl

theorem mem_watched {definitions : List Definition} {id : Identity} :
    id ∈ watched definitions ↔ ∃ d,
      ((definitions.filter fun d => d.Usable).find? fun d => d.name = id.name) = some d ∧
        d.identity = id := by
  rw [watched, mem_identities_iff (indexed_replace _ _), get?_replace]
  constructor
  · rintro ⟨t, ht, hid⟩
    obtain ⟨d, hd, rfl⟩ := Option.map_eq_some_iff.mp ht
    exact ⟨d, hd, by rw [← hid, identity_carry]⟩
  · rintro ⟨d, hd, hid⟩
    exact ⟨_, by rw [hd]; rfl, by rw [identity_carry, hid]⟩

/-- Whatever is watched is listed and can be watched. -/
theorem exists_of_mem_watched {definitions : List Definition} {id : Identity}
    (h : id ∈ watched definitions) : ∃ d ∈ definitions, d.Usable ∧ d.identity = id := by
  obtain ⟨d, hfind, hid⟩ := mem_watched.mp h
  obtain ⟨hd, husable⟩ := List.mem_filter.mp (List.mem_of_find?_eq_some hfind)
  exact ⟨d, hd, by simpa using husable, hid⟩

end Registry

/-! ### Catalogs -/

/-- A definition is read back as it was stored: there is no NUL in it. -/
def Definition.Legible (d : Definition) : Prop :=
  '\x00' ∉ d.name.toList ∧ '\x00' ∉ d.address.toList

instance (d : Definition) : Decidable d.Legible := inferInstanceAs (Decidable (_ ∧ _))

namespace Catalog

variable {c : Catalog} {d : Definition} {name : String}

/-- No name has two entries. -/
def Distinct (c : Catalog) : Prop := (c.entries.map Definition.name).Nodup

instance (c : Catalog) : Decidable c.Distinct := inferInstanceAs (Decidable (List.Nodup _))

theorem map_name_put (d : Definition) (es : List Definition) :
    (put d es).map Definition.name = es.map Definition.name ∨
      d.name ∉ es.map Definition.name ∧
        (put d es).map Definition.name = es.map Definition.name ++ [d.name] := by
  induction es with
  | nil => exact .inr ⟨List.not_mem_nil, rfl⟩
  | cons e es ih =>
    rw [put]
    split
    · next hname => exact .inl (by simp [hname])
    · next hname =>
      rcases ih with heq | ⟨hnot, heq⟩
      · exact .inl (by simp [heq])
      · exact .inr ⟨by simpa [Ne.symm hname] using hnot, by simp [heq]⟩

theorem Distinct.upsert (h : c.Distinct) (d : Definition) : (c.upsert d).Distinct := by
  rw [Distinct, Catalog.upsert]
  rcases map_name_put { d with enabled := true } c.entries with heq | ⟨hnot, heq⟩
  · rwa [heq]
  · rw [heq]
    exact List.nodup_append.mpr ⟨h, List.nodup_singleton _, by simpa using hnot⟩

theorem Distinct.disable (h : c.Distinct) (name : String) : (c.disable name).Distinct := by
  have hnames : (c.disable name).entries.map Definition.name = c.entries.map Definition.name := by
    rw [Catalog.disable, List.map_map]
    refine List.map_congr_left fun e _ => ?_
    by_cases he : e.name = name <;> simp [he]
  rwa [Distinct, hnames]

theorem legible_readBack (d : Definition) : (readBack d).Legible :=
  ⟨StoredText.nul_notMem_read _, StoredText.nul_notMem_read _⟩

theorem readBack_eq_self (h : d.Legible) : readBack d = d := by
  rw [readBack, StoredText.read_eq_self h.1, StoredText.read_eq_self h.2]

/-- What can be watched when it is read back could be watched when it was stored. -/
theorem usable_of_readBack (h : (readBack d).Usable) : d.Usable := by
  obtain ⟨henabled, hname, haddress, hport⟩ := h
  refine ⟨henabled, fun hempty => hname ?_, fun hempty => haddress ?_, hport⟩
  · rw [readBack, hempty]
    rfl
  · rw [readBack, hempty]
    rfl

theorem mem_list {e : Definition} :
    e ∈ c.list ↔ ∃ d ∈ c.entries, d.enabled = true ∧ readBack d = e := by
  simp [list, mem_sortByName, and_assoc]

/-- A registry watches what a catalog has switched on and can be watched. -/
def MirroredBy (c : Catalog) (ids : List Identity) : Prop :=
  ∀ id, id ∈ ids ↔ ∃ d ∈ c.entries, d.Usable ∧ d.identity = id

theorem mirroredBy_iff {ids : List Identity} : c.MirroredBy ids ↔
    (∀ id ∈ ids, ∃ d ∈ c.entries, d.Usable ∧ d.identity = id) ∧
      ∀ d ∈ c.entries, d.Usable → d.identity ∈ ids := by
  constructor
  · exact fun h => ⟨fun id hid => (h id).mp hid, fun d hd husable =>
      (h d.identity).mpr ⟨d, hd, husable, rfl⟩⟩
  · rintro ⟨hfrom, hto⟩ id
    refine ⟨hfrom id, ?_⟩
    rintro ⟨d, hd, husable, rfl⟩
    exact hto d hd husable

instance (c : Catalog) (ids : List Identity) : Decidable (c.MirroredBy ids) :=
  decidable_of_iff _ mirroredBy_iff.symm

/-- **After a listing exactly that is watched which the catalog says**, if and only if all of that
is read back as it was stored. -/
theorem mirroredBy_watched_iff (h : c.Distinct) :
    c.MirroredBy (Registry.watched c.list) ↔ ∀ d ∈ c.entries, d.Usable → d.Legible := by
  constructor
  · intro hmirror d hd husable
    obtain ⟨e, he, -, hid⟩ := Registry.exists_of_mem_watched ((hmirror d.identity).mpr
      ⟨d, hd, husable, rfl⟩)
    obtain ⟨e₀, -, -, rfl⟩ := mem_list.mp he
    have hname : (readBack e₀).name = d.name := congrArg Identity.name hid
    have haddress : (readBack e₀).address = d.address := congrArg Identity.address hid
    rw [Definition.Legible, ← hname, ← haddress]
    exact legible_readBack e₀
  · intro hlegible
    -- what can be watched is listed as it was stored
    have hstored : ∀ e ∈ c.list, e.Usable → e ∈ c.entries := by
      intro e he husable
      obtain ⟨d, hd, -, rfl⟩ := mem_list.mp he
      rwa [readBack_eq_self (hlegible d hd (usable_of_readBack husable))]
    intro id
    constructor
    · intro hid
      obtain ⟨e, he, husable, hid⟩ := Registry.exists_of_mem_watched hid
      exact ⟨e, hstored e he husable, husable, hid⟩
    · rintro ⟨d, hd, husable, rfl⟩
      have hlisted : d ∈ c.list := mem_list.mpr ⟨d, hd, husable.1,
        readBack_eq_self (hlegible d hd husable)⟩
      have hfound : ((c.list.filter fun d => d.Usable).find? fun e => e.name = d.name).isSome := by
        rw [List.find?_isSome]
        exact ⟨d, List.mem_filter.mpr ⟨hlisted, by simpa using husable⟩, by simp⟩
      obtain ⟨e, he⟩ := Option.isSome_iff_exists.mp hfound
      obtain ⟨hlist, husable'⟩ := List.mem_filter.mp (List.mem_of_find?_eq_some he)
      have hname : e.name = d.name := by simpa using List.find?_some he
      obtain rfl : e = d := List.inj_on_of_nodup_map h
        (hstored e hlist (by simpa using husable')) hd hname
      exact Registry.mem_watched.mpr ⟨e, he, rfl⟩

end Catalog

end Uptime

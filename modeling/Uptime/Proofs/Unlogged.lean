import Uptime.Check.Cycle

/-!
# Without the check log

Nothing that a monitor does depends on its check log: what is watched and what is known about it
follow from the catalog and from the results of probes alone. So two monitors that differ in their
logs only behave alike.

## Main definitions

* `Monitor.unlogged`: a monitor without its log.
* `Happening.on`: what a happening makes of a monitor.

## Main results

* `Monitor.adopt_congr`, `Monitor.settle_congr`: listings and results.
* `Happening.on_congr`: what happens through a monitor does not depend on its log.
-/

namespace Uptime

namespace Monitor

/-- A monitor without its log. -/
def unlogged (m : Monitor) : Monitor := ⟨m.registry, ⟨m.store.catalog, {}⟩⟩

section

variable {m m' : Monitor}

/-- Two monitors differ in their logs only. -/
theorem unlogged_eq_iff :
    m.unlogged = m'.unlogged ↔ m.registry = m'.registry ∧ m.store.catalog = m'.store.catalog := by
  simp [unlogged]

/-! ### What two such monitors do -/

theorem listing_congr (h : m.unlogged = m'.unlogged) (ok : Bool) :
    m.listing ok = m'.listing ok := by
  rw [listing, listing, (unlogged_eq_iff.mp h).2]

theorem adopt_congr (h : m.unlogged = m'.unlogged) (definitions : Option (List Definition)) :
    (m.adopt definitions).unlogged = (m'.adopt definitions).unlogged := by
  obtain ⟨hregistry, hcatalog⟩ := unlogged_eq_iff.mp h
  cases definitions with
  | none => exact h
  | some definitions =>
    refine unlogged_eq_iff.mpr ⟨?_, hcatalog⟩
    rw [adopt, adopt, hregistry]

theorem sync_congr (h : m.unlogged = m'.unlogged) (ok : Bool) :
    (m.sync ok).unlogged = (m'.sync ok).unlogged := by
  rw [sync, sync, listing_congr h]
  exact adopt_congr h _

/-- Whether a result can be recorded changes the log at most. -/
theorem settle_congr (h : m.unlogged = m'.unlogged) (id : Identity) (up : Bool) (now : Instant)
    (ok ok' : Bool) :
    (m.settle id up now ok).1 = (m'.settle id up now ok').1 ∧
      (m.settle id up now ok).2.unlogged = (m'.settle id up now ok').2.unlogged := by
  obtain ⟨hregistry, hcatalog⟩ := unlogged_eq_iff.mp h
  rw [settle, settle, hregistry]
  split
  · exact ⟨rfl, unlogged_eq_iff.mpr ⟨rfl, hcatalog⟩⟩
  · refine ⟨rfl, unlogged_eq_iff.mpr ⟨rfl, ?_⟩⟩
    -- recorded or not, the catalog stays as it is
    cases ok <;> cases ok' <;> exact hcatalog

theorem upsert_congr (h : m.unlogged = m'.unlogged) (name address : String) (port : Int)
    (writing : Writing) (ok : Bool) :
    (m.upsert name address port writing ok).2.unlogged =
      (m'.upsert name address port writing ok).2.unlogged := by
  obtain ⟨hregistry, hcatalog⟩ := unlogged_eq_iff.mp h
  rw [upsert, upsert]
  split
  · exact h
  · next definition _ =>
    split
    · exact h
    · have hstore : (⟨m.registry, m.store.upsert definition⟩ : Monitor).unlogged =
          (⟨m'.registry, m'.store.upsert definition⟩ : Monitor).unlogged :=
        unlogged_eq_iff.mpr ⟨hregistry, congrArg (Catalog.upsert · definition) hcatalog⟩
      exact sync_congr hstore ok

theorem delete_congr (h : m.unlogged = m'.unlogged) (name : String) (writing : Writing)
    (ok : Bool) :
    (m.delete name writing ok).2.unlogged = (m'.delete name writing ok).2.unlogged := by
  obtain ⟨hregistry, hcatalog⟩ := unlogged_eq_iff.mp h
  rw [delete, delete]
  split
  · exact h
  · next name _ =>
    split
    · exact h
    · have hstore : (⟨m.registry, m.store.disable name⟩ : Monitor).unlogged =
          (⟨m'.registry, m'.store.disable name⟩ : Monitor).unlogged :=
        unlogged_eq_iff.mpr ⟨hregistry, congrArg (Catalog.disable · name) hcatalog⟩
      exact sync_congr hstore ok

end

end Monitor

namespace Happening

/-- What a happening makes of a monitor. -/
def on (h : Happening) (m : Monitor) : Monitor := (Cycle.step { monitor := m } h).monitor

theorem on_upserted (m : Monitor) (name address : String) (port : Int) (writing : Writing)
    (ok : Bool) :
    (upserted name address port writing ok).on m = (m.upsert name address port writing ok).2 := rfl

theorem on_deleted (m : Monitor) (name : String) (writing : Writing) (ok : Bool) :
    (deleted name writing ok).on m = (m.delete name writing ok).2 := rfl

/-- **What happens through a monitor does not depend on its log.** -/
theorem on_congr (h : Happening) {m m' : Monitor} (hm : m.unlogged = m'.unlogged) :
    (h.on m).unlogged = (h.on m').unlogged := by
  cases h with
  | probed id outcome now ok =>
    cases outcome with
    | up => exact (Monitor.settle_congr hm id true now ok ok).2
    | down => exact (Monitor.settle_congr hm id false now ok ok).2
    | died => exact hm
  | upserted name address port writing ok =>
    rw [on_upserted, on_upserted]
    exact Monitor.upsert_congr hm name address port writing ok
  | deleted name writing ok =>
    rw [on_deleted, on_deleted]
    exact Monitor.delete_congr hm name writing ok
  | synced ok => exact Monitor.sync_congr hm ok

end Happening

end Uptime

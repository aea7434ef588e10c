import Mathlib.Logic.Function.Basic
import Uptime.Proofs.Office
import Uptime.Proofs.Registry.Listing

/-!
# Listings

The catalog is listed at one time and the listing adopted at another, by a round or by an errand.
What is watched changes by an adoption only, and to what the listing says; the catalog changes only
by an errand that is going to list it; and whatever else happens in an office changes neither.

## Main definitions

* `Syncer`, `Office.underway`: who has listed the catalog, and the listings that are to be adopted.
* `Office.Awaiting`: there is an errand that is to list the catalog.
* `Office.Effect`: what a move does to what is watched, to the catalog and to the listings.

## Main results

* `Office.Step.effect`: each step has such an effect.
-/

namespace Uptime

variable {σ : Type}

/-! ### Listings under way -/

/-- Who lists the catalog and adopts the listing. -/
inductive Syncer
  /-- The round. -/
  | round
  /-- The errand with this number. -/
  | errand (i : Nat)
  deriving DecidableEq, Repr

/-- The listing that is to be adopted by an errand. -/
def ErrandStage.adopting? : ErrandStage → Option (Option (List Definition))
  | adopting definitions => some definitions
  | _ => none

/-- An errand changes the catalog or brings the registry up to date. -/
def ErrandStage.syncs : ErrandStage → Bool
  | writing _ => true
  | listing => true
  | adopting _ => true
  | _ => false

namespace OfficeMove

/-- Who lists the catalog by a move, and whether that succeeds. -/
def lists? : OfficeMove → Option (Syncer × Bool)
  | within (.within (.listed succeeds)) => some (.round, succeeds)
  | listed i succeeds => some (.errand i, succeeds)
  | _ => none

/-- Who adopts its listing by a move. -/
def adopts? : OfficeMove → Option Syncer
  | within (.within .adopted) => some .round
  | adopted i => some (.errand i)
  | _ => none

end OfficeMove

namespace Office

/-- What is watched. -/
abbrev identities (o : Office σ) : List Identity := o.monitor.registry.identities

/-- The catalog. -/
abbrev catalog (o : Office σ) : Catalog := o.monitor.store.catalog

/-- The listings that are to be adopted. -/
def underway (o : Office σ) : Syncer → Option (Option (List Definition))
  | .round => o.station.round.adopting?
  | .errand i => o.errands[i]?.bind ErrandStage.adopting?

/-- There is an errand that is to list the catalog. -/
def Awaiting (o : Office σ) : Prop := ∃ i : Nat, o.errands[i]? = some .listing

/-- What a move does to what is watched, to the catalog and to the listings under way. -/
inductive Effect (o : Office σ) (b : OfficeMove) (o' : Office σ) : Prop
  /-- Nothing. -/
  | quiet (hlists : b.lists? = none) (hadopts : b.adopts? = none)
      (hcatalog : o'.catalog = o.catalog) (hidentities : o'.identities = o.identities)
      (hunderway : o'.underway = o.underway) (hadopted : o'.adopted = o.adopted)
      (hawaiting : o.Awaiting → o'.Awaiting)
  /-- The catalog is changed, and will be listed. -/
  | written (i : Nat) (change : CatalogChange) (hb : b = .written i (.ok ()))
      (hstore : o'.monitor.store = o.monitor.store.change change)
      (hidentities : o'.identities = o.identities)
      (hunderway : o'.underway = o.underway) (hadopted : o'.adopted = o.adopted)
      (hawaiting : o'.Awaiting)
  /-- The catalog is listed. -/
  | listed (s : Syncer) (succeeds : Bool) (hlists : b.lists? = some (s, succeeds))
      (hadopts : b.adopts? = none) (hcatalog : o'.catalog = o.catalog)
      (hidentities : o'.identities = o.identities) (hbefore : o.underway s = none)
      (hunderway : o'.underway =
        Function.update o.underway s (some (o.monitor.listing succeeds)))
      (hadopted : o'.adopted = o.adopted)
  /-- A listing is adopted. -/
  | adopted (s : Syncer) (definitions : Option (List Definition)) (hlists : b.lists? = none)
      (hadopts : b.adopts? = some s) (hcatalog : o'.catalog = o.catalog)
      (hbefore : o.underway s = some definitions)
      (hidentities : o'.identities = definitions.elim o.identities Registry.watched)
      (hunderway : o'.underway = Function.update o.underway s none)
      (hadopted : o'.adopted = o.adopted ++ definitions.toList)
      (hawaiting : o.Awaiting → o'.Awaiting)

section

variable {settings : OfficeSettings} {ch : Channel σ} {o o' : Office σ} {b : OfficeMove}

theorem identities_adopt (m : Monitor) (definitions : Option (List Definition)) :
    (m.adopt definitions).registry.identities =
      definitions.elim m.registry.identities Registry.watched := by
  cases definitions with
  | none => rfl
  | some definitions => exact m.registry.identities_replace definitions

/-- An errand that comes to another stage has its listing no longer, or has one now. -/
theorem underway_enter {i : Nat} {stage : ErrandStage} (h : o.errands[i]? = some stage)
    (stage' : ErrandStage) :
    (o.enter i stage').underway = Function.update o.underway (.errand i) stage'.adopting? := by
  obtain ⟨hi, -⟩ := List.getElem?_eq_some_iff.mp h
  funext s
  cases s with
  | round => rfl
  | errand j =>
    by_cases hj : j = i
    · subst hj
      simp [underway, enter, hi]
    · rw [Function.update_of_ne (by simpa using hj)]
      simp [underway, enter, List.getElem?_set_ne (Ne.symm hj)]

/-- An errand without a listing comes to another stage without one. -/
theorem underway_enter_of_none {i : Nat} {stage stage' : ErrandStage}
    (h : o.errands[i]? = some stage) (hstage : stage.adopting? = none)
    (hstage' : stage'.adopting? = none) : (o.enter i stage').underway = o.underway := by
  rw [underway_enter h, hstage', Function.update_eq_self_iff]
  simp [underway, h, hstage]

theorem underway_withMonitor (o : Office σ) (m : Monitor) :
    (o.withMonitor m).underway = o.underway := by
  funext s
  cases s <;> rfl

/-- Another errand is still to list the catalog. -/
theorem awaiting_enter {i : Nat} {stage : ErrandStage} (h : o.errands[i]? = some stage)
    (hstage : stage ≠ .listing) (stage' : ErrandStage) (hawaiting : o.Awaiting) :
    (o.enter i stage').Awaiting := by
  obtain ⟨j, hj⟩ := hawaiting
  refine ⟨j, ?_⟩
  have hne : i ≠ j := by
    rintro rfl
    exact hstage (Option.some.inj (h.symm.trans hj))
  rw [enter, List.getElem?_set_ne hne, hj]

/-- What is asked for is not listed at once. -/
theorem adopting?_start (ceiling : Nat) (m : Monitor) (errand : Errand) :
    (errand.start ceiling m).adopting? = none := by
  cases errand with
  | upsert name address port =>
    rw [Errand.start]
    split <;> rfl
  | delete name =>
    rw [Errand.start]
    split <;> rfl
  | sync => rfl
  | logs target days limit =>
    rw [Errand.start]
    split <;> rfl

theorem effect_begun (o : Office σ) (errand : Errand) :
    Effect o (.begun errand)
      { o with errands := o.errands ++ [errand.start settings.ceiling o.monitor] } := by
  refine .quiet rfl rfl rfl rfl ?_ rfl ?_
  · funext s
    cases s with
    | round => rfl
    | errand i =>
      -- an earlier errand, the new one, or none
      rcases Nat.lt_trichotomy i o.errands.length with hi | rfl | hi
      · simp [underway, List.getElem?_append_left hi]
      · simp [underway, adopting?_start]
      · have hafter : (o.errands ++ [errand.start settings.ceiling o.monitor])[i]? = none := by
          rw [List.getElem?_eq_none_iff, List.length_append]
          exact Nat.succ_le_of_lt hi
        rw [underway, underway, hafter, List.getElem?_eq_none hi.le]
  · rintro ⟨i, hi⟩
    obtain ⟨hlt, -⟩ := List.getElem?_eq_some_iff.mp hi
    exact ⟨i, by rw [List.getElem?_append_left hlt, hi]⟩

/-! ### Moves of the station -/

theorem underway_of_errands (h : o'.errands = o.errands) :
    o'.underway = Function.update o.underway .round o'.station.round.adopting? := by
  funext s
  cases s with
  | round => rw [Function.update_self, underway]
  | errand i => rw [Function.update_of_ne (by simp), underway, underway, h]

theorem awaiting_of_errands (h : o'.errands = o.errands) (hawaiting : o.Awaiting) :
    o'.Awaiting := by
  rwa [Awaiting, h]

/-- A move of the station by which the listing of its round stays as it is. -/
private theorem effect_of_adopting? (hlists : b.lists? = none) (hadopts : b.adopts? = none)
    (herrands : o'.errands = o.errands) (hcatalog : o'.catalog = o.catalog)
    (hidentities : o'.identities = o.identities)
    (hadopting : o'.station.round.adopting? = o.station.round.adopting?)
    (hadopted : o'.adopted = o.adopted) : Effect o b o' := by
  refine .quiet hlists hadopts hcatalog hidentities ?_ hadopted (awaiting_of_errands herrands)
  rw [underway_of_errands herrands, hadopting, Function.update_eq_self_iff, underway]

/-- What a move of the round does to the listings. -/
theorem effect_within {a : RoundMove} {r : Round} {workers : Nat}
    (ha : (StationMove.within a).isForeign = false)
    (h : Round.Step workers o.station.round a r) (desk : Desk σ) (past : List Round) :
    Effect o (.within (.within a))
      { o with
        station := ⟨r, desk⟩
        past
        adopted := o.adopted ++ o.station.adopts (.within a) } := by
  cases h with
  | listed hlisting ok =>
    refine .listed .round ok rfl rfl rfl rfl ?_ (underway_of_errands rfl) (List.append_nil _)
    rw [underway, Round.adopting?, hlisting]
  | @adopted definitions hadopting =>
    have hlisting : o.station.round.adopting? = some definitions := by
      rw [Round.adopting?, hadopting]
    refine .adopted .round definitions rfl rfl ?_ hlisting (identities_adopt _ _)
      (underway_of_errands rfl) ?_ (awaiting_of_errands rfl)
    · cases definitions <;> rfl
    · rw [Station.adopts, hlisting]
      rfl
  | stored store => cases ha
  | replaced definitions => cases ha
  | discarded htask happly
  | applied htask happly =>
    -- results do not change what is watched
    exact effect_of_adopting? rfl rfl rfl rfl (Registry.identities_apply _ _ _ _) rfl
      (List.append_nil _)
  | recorded htask ok =>
    refine effect_of_adopting? rfl rfl rfl ?_ rfl rfl (List.append_nil _)
    cases ok <;> rfl
  | read hstage
  | launched hstage _
  | handed hstage _
  | cancelled hstage =>
    refine effect_of_adopting? rfl rfl rfl rfl rfl ?_ (List.append_nil _)
    rw [Round.adopting?, Round.adopting?, hstage]
  | died htask
  | collected _ htask => exact effect_of_adopting? rfl rfl rfl rfl rfl rfl (List.append_nil _)

/-- **What a step does** to the listings. -/
theorem Step.effect (h : Step settings ch o b o') : Effect o b o' := by
  cases h with
  | @within b s hb h =>
    cases b with
    | begun =>
      rw [Station.step?] at h
      split at h <;> cases h
      next hfinished =>
      refine effect_of_adopting? rfl rfl rfl rfl rfl ?_ (List.append_nil _)
      rw [Round.adopting?, Round.adopting?, hfinished]
    | within a =>
      obtain ⟨r, hr, rfl⟩ := Option.map_eq_some_iff.mp h
      exact effect_within hb (.of_step? hr) _ _
  | begun errand => exact effect_begun o errand
  | refused h failure =>
    exact .quiet rfl rfl rfl rfl (underway_enter_of_none h rfl rfl) rfl
      (awaiting_enter h (by simp) _)
  | @written i change h =>
    refine .written i change rfl rfl rfl ?_ rfl ⟨i, ?_⟩
    · exact (underway_withMonitor (o.enter i .listing) _).trans (underway_enter_of_none h rfl rfl)
    · obtain ⟨hi, -⟩ := List.getElem?_eq_some_iff.mp h
      simp [enter, withMonitor, hi]
  | @listed i h ok =>
    refine .listed (.errand i) ok rfl rfl rfl rfl ?_ (underway_enter h _) rfl
    simp [underway, h, ErrandStage.adopting?]
  | @adopted i definitions h =>
    refine .adopted (.errand i) definitions rfl rfl ?_ ?_ (identities_adopt _ _) ?_ rfl
      (awaiting_enter (o := o.withMonitor _) h (by simp) _)
    · cases definitions <;> rfl
    · simp [underway, h, ErrandStage.adopting?]
    · exact (underway_withMonitor (o.enter i _) _).trans (underway_enter h _)
  | read h now ok =>
    exact .quiet rfl rfl rfl rfl (underway_enter_of_none h rfl rfl) rfl
      (awaiting_enter h (by simp) _)

end

end Office

end Uptime

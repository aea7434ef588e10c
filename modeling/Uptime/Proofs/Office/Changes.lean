import Uptime.Proofs.Changes
import Uptime.Proofs.Office.Convergence

/-!
# Changes of the catalog in an office

Whatever an office has been through, a change of its catalog either leaves no trace or is made, and
the registry shows it as soon as the catalog has been listed. A request that is not well-formed is
answered at once: no step of its errand follows, so the store does not hear of it.

## Main definitions

* `OfficeMove.errand?`: the errand that makes a move.
* `Office.Answers`: how a request is answered, and what comes of it.

## Main results

* `Office.sound_run`: what can be relied on in a monitor holds throughout a run.
* `Office.returned_of_runFrom?`: an errand that has returned makes no further move.
* `Office.answers_run`: how requests are answered.
-/

namespace Uptime

variable {σ : Type}

/-- The errand that makes a move. -/
def OfficeMove.errand? : OfficeMove → Option Nat
  | within _ => none
  | begun _ => none
  | written i _ => some i
  | listed i _ => some i
  | adopted i => some i
  | read i _ _ => some i

namespace Office

section

variable {settings : OfficeSettings} {ch : Channel σ} {o o' : Office σ} {b : OfficeMove}
  {moves : List OfficeMove} {store : Store} {channel : σ}

/-! ### What can be relied on -/

theorem indexed_step (h : o.monitor.registry.Indexed) (hstep : Step settings ch o b o') :
    o'.monitor.registry.Indexed := by
  cases hstep with
  | @within b s hb hs =>
    cases b with
    | begun =>
      rw [Station.step?] at hs
      split at hs <;> cases hs
      exact h
    | within a =>
      obtain ⟨r, hr, rfl⟩ := Option.map_eq_some_iff.mp hs
      rw [(Round.Step.of_step? hr).registry_eq]
      cases o.station.round.call? a with
      | none => exact h
      | some c => exact Registry.indexed_call h c
  | @adopted i definitions hi =>
    cases definitions with
    | none => exact h
    | some definitions => exact Registry.indexed_replace _ definitions
  | _ => exact h

/-- Listings have been read back, those under way and the one that is shown. -/
structure ReadsBack (o : Office σ) : Prop where
  bears : o.Bears (fun definitions => ∀ d ∈ definitions, d.Legible) fun _ => False
  registered : ∀ id ∈ o.identities, ∃ d : Definition, d.Usable ∧ d.Legible ∧ d.identity = id

theorem legible_of_mem_list {c : Catalog} : ∀ d ∈ c.list, d.Legible := by
  intro d hd
  obtain ⟨e, -, -, rfl⟩ := Catalog.mem_list.mp hd
  exact Catalog.legible_readBack e

theorem ReadsBack.step (h : o.ReadsBack) (heffect : Effect o b o') : o'.ReadsBack := by
  have hbears := h.bears.step legible_of_mem_list heffect
  refine ⟨fun s definitions hs => (hbears s definitions hs).imp_right And.left, ?_⟩
  cases heffect with
  | quiet _ _ _ hidentities
  | written _ _ _ _ hidentities
  | listed _ _ _ _ _ hidentities =>
    rw [hidentities]
    exact h.registered
  | adopted s definitions _ _ _ hbefore hidentities =>
    rw [hidentities]
    cases definitions with
    | none => exact h.registered
    | some definitions =>
      intro id hid
      obtain ⟨d, hd, husable, hidentity⟩ := Registry.exists_of_mem_watched hid
      exact ⟨d, husable, (h.bears s definitions hbefore).resolve_right not_false d hd, hidentity⟩

/-- **What can be relied on in a monitor** holds throughout a run. -/
theorem sound_run (hstore : store.catalog.Distinct)
    (h : run? settings ch store channel moves = some o) : o.monitor.Sound := by
  have hindexed : o.monitor.registry.Indexed :=
    runFrom?_induction (P := fun q => q.monitor.registry.Indexed) (Registry.indexed_after [])
      (fun hq hstep => indexed_step hq hstep) h
  have hfresh : (fresh store channel).ReadsBack := by
    refine ⟨fun s definitions hs => ?_, fun id hid => ?_⟩
    · cases s <;> cases hs
    · cases hid
  have hreads : o.ReadsBack :=
    runFrom?_induction hfresh (fun hq hstep => hq.step hstep.effect) h
  exact ⟨distinct_run hstore h, hindexed, hreads.registered⟩

/-! ### Errands that have returned -/

/-- An errand that has returned makes no move, and its answer stays. -/
theorem Step.returned {i : Nat} {reply : ErrandReply} (h : o.errands[i]? = some (.returned reply))
    (hstep : Step settings ch o b o') :
    b.errand? ≠ some i ∧ o'.errands[i]? = some (.returned reply) := by
  -- a move of an errand finds it at another stage
  have hother : ∀ {j : Nat} {stage : ErrandStage}, o.errands[j]? = some stage →
      (∀ reply, stage ≠ .returned reply) → ∀ stage',
      some j ≠ some i ∧ (o.enter j stage').errands[i]? = some (.returned reply) := by
    intro j stage hj hstage stage'
    have hne : j ≠ i := by
      rintro rfl
      exact hstage reply (Option.some.inj (hj.symm.trans h))
    exact ⟨by simpa using hne, by rw [enter, List.getElem?_set_ne hne, h]⟩
  cases hstep with
  | within hb hs => exact ⟨by simp [OfficeMove.errand?], h⟩
  | begun errand =>
    obtain ⟨hi, -⟩ := List.getElem?_eq_some_iff.mp h
    exact ⟨by simp [OfficeMove.errand?], by rw [List.getElem?_append_left hi, h]⟩
  | refused hj failure => exact hother hj (by simp) _
  | written hj => exact hother hj (by simp) _
  | listed hj ok => exact hother hj (by simp) _
  | adopted hj => exact hother hj (by simp) _
  | read hj now ok => exact hother hj (by simp) _

/-- **An errand that has returned makes no further move.** -/
theorem returned_of_runFrom? {i : Nat} {reply : ErrandReply}
    (h : o.errands[i]? = some (.returned reply)) (hrun : o.runFrom? settings ch moves = some o') :
    (∀ b ∈ moves, b.errand? ≠ some i) ∧ o'.errands[i]? = some (.returned reply) := by
  induction moves generalizing o with
  | nil =>
    cases hrun
    exact ⟨by simp, h⟩
  | cons b moves ih =>
    rw [runFrom?_cons] at hrun
    obtain ⟨q, hq, hrest⟩ := Option.bind_eq_some_iff.mp hrun
    obtain ⟨hb, hi⟩ := (Step.of_step? hq).returned h
    obtain ⟨hmoves, hlast⟩ := ih hi hrest
    exact ⟨List.forall_mem_cons.mpr ⟨hb, hmoves⟩, hlast⟩

/-! ### Requests -/

/-- How a request is answered in an office, and what comes of it. -/
structure Answers (settings : OfficeSettings) (ch : Channel σ) (o : Office σ)
    (q : ChangeRequest) : Prop where
  /-- It is done exactly if it is well-formed and can be written. -/
  done_iff : ∀ writing ok, (∃ m, o.monitor.serve writing ok q = (.ok (), m)) ↔
    (∃ change, q.check = .ok change) ∧ writing = .ok ()
  /-- Else everything is as it was, and the error tells whether the entry is at fault. -/
  of_error : ∀ writing ok e m, o.monitor.serve writing ok q = (.error e, m) →
    m = o.monitor ∧ (e.isEntryError = true ↔ ∃ error, q.check = .error error)
  /-- If it is, the errand makes no move after its beginning, so the store is not called. -/
  uncalled : ∀ error, q.check = .error error → ∀ moves o',
    o.runFrom? settings ch (.begun q.errand :: moves) = some o' →
    (∀ b ∈ moves, b.errand? ≠ some o.errands.length) ∧
      o'.errands[o.errands.length]? = some (.returned (.refused (.entry error)))
  /-- What is done is written; the registry follows if the catalog can be listed, and else stays as
  it is. -/
  of_ok : ∀ writing ok m, o.monitor.serve writing ok q = (.ok (), m) →
    m.store = o.monitor.store.change q.change ∧
      (ok = true → o.monitor.Follows q m.registry) ∧
      (ok = false → m.registry = o.monitor.registry)
  /-- All this is what the errand does if nothing comes between. -/
  leads : ∀ writing ok, Leads settings ch o o.errands (o.monitor.serve writing ok q).2
    (.returned (.ofChange (o.monitor.serve writing ok q).1))

/-- **A request is answered so**, whatever the office has been through. -/
theorem answers_run (hstore : store.catalog.Distinct)
    (hrun : run? settings ch store channel moves = some o) (q : ChangeRequest) :
    Answers settings ch o q where
  done_iff writing ok := by
    simp only [Monitor.serve_eq_ok_iff, exists_and_left, exists_eq, and_true]
  of_error writing ok e m h := by
    obtain ⟨rfl, ⟨error, hcheck, rfl⟩ | ⟨⟨change, hcheck⟩, failure, -, rfl⟩⟩ :=
      Monitor.serve_eq_error_iff.mp h
    · exact ⟨rfl, by simp [ChangeError.isEntryError, hcheck]⟩
    · exact ⟨rfl, by simp [ChangeError.isEntryError, hcheck]⟩
  uncalled error hcheck moves o' h := by
    rw [runFrom?_cons] at h
    refine returned_of_runFrom? ?_ h
    simp [ChangeRequest.start_errand, hcheck]
  of_ok writing ok m h := by
    obtain ⟨⟨change, hcheck⟩, -, rfl⟩ := Monitor.serve_eq_ok_iff.mp h
    cases ok with
    | false => exact ⟨rfl, by simp, fun _ => rfl⟩
    | true => exact ⟨rfl, fun _ => (sound_run hstore hrun).follows hcheck, by simp⟩
  leads writing ok := by
    have hserve : q.errand.serve settings.ceiling o.monitor writing ok true (.atMillis 0) =
        (.ofChange (o.monitor.serve writing ok q).1, (o.monitor.serve writing ok q).2) := by
      cases q <;> rfl
    have hleads := leads_serve settings ch o q.errand writing ok true (.atMillis 0)
    rwa [hserve] at hleads

/-- Two targets are watched, and one of them is down. The other one gets a new address, or it is
switched off. Then one whose name has a NUL is written, which is done but not to be seen under that
name; and one that has the beginning of the name is written and switched off, but its name is still
there. -/
theorem answers_run_cut :
    let settings : OfficeSettings := ⟨.ofSeconds 30, 0, 100⟩
    let store : Store := ⟨⟨[⟨"web", "a", 80, true⟩, ⟨"db", "a", 5432, true⟩]⟩, {}⟩
    let moves : List OfficeMove :=
      [.listed true, .adopted, .read, .launched, .launched, .returned 0 true (.atMillis 0),
        .returned 1 false (.atMillis 1)].map fun a => .within (.within a)
    let web : TargetState := ⟨⟨"web", "a", 80⟩, .down, some (.atMillis 1), some (.atMillis 1)⟩
    let done (m : Monitor) (q : ChangeRequest) : Monitor := (m.serve (.ok ()) true q).2
    ∃ o, run? settings Script.channel store {} moves = some o ∧
      (∀ q, Answers settings Script.channel o q) ∧
      (done o.monitor (.upsert " db " "b" 5432)).registry.targets =
        [.fresh ⟨"db", "b", 5432⟩, web] ∧
      (done o.monitor (.delete "db")).registry.targets = [web] ∧
      (let cut := done o.monitor (.upsert "a\x00b" "h" 1)
      cut.registry.get? "a\x00b" = none ∧ cut.registry.get? "a" = some (.fresh ⟨"a", "h", 1⟩) ∧
        (done (done cut (.upsert "a" "h" 2)) (.delete "a")).registry.get? "a" =
          some (.fresh ⟨"a", "h", 1⟩)) := by
  intro settings store moves web done
  have hdone : ∃ o ∈ run? settings Script.channel store {} moves,
      (done o.monitor (.upsert " db " "b" 5432)).registry.targets =
        [.fresh ⟨"db", "b", 5432⟩, web] ∧
      (done o.monitor (.delete "db")).registry.targets = [web] ∧
      (let cut := done o.monitor (.upsert "a\x00b" "h" 1)
      cut.registry.get? "a\x00b" = none ∧ cut.registry.get? "a" = some (.fresh ⟨"a", "h", 1⟩) ∧
        (done (done cut (.upsert "a" "h" 2)) (.delete "a")).registry.get? "a" =
          some (.fresh ⟨"a", "h", 1⟩)) := by
    decide +kernel
  obtain ⟨o, hrun, hdone⟩ := hdone
  exact ⟨o, hrun, answers_run (by decide) hrun, hdone⟩

end

end Office

end Uptime

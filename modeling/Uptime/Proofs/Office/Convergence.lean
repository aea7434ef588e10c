import Uptime.Proofs.Office.Listings

/-!
# The registry follows the catalog

Whatever is watched has been listed, but a listing can be overtaken: if it was made before a change
of the catalog and is adopted after that of the change itself, the registry goes back to what was
before. If listings are made and adopted one after the other this cannot happen, and the registry
shows the catalog whenever nothing is in progress, as far as that is read back as it was stored. And
in any case a round goes by what the catalog has said since all listings that were under way at some
time have been adopted.

## Main definitions

* `Office.ShowsLast`: what is watched is what the listing says that was adopted last.
* `Office.Serial`, `Office.Following`: one listing at most is under way, and the registry follows.
* `Office.Bears`, `Office.Holds`: which listings are under way or shown.
* `Office.Throughout`: what holds at every point of a run.
* `Office.Converges`: how the registry follows the catalog.

## Main results

* `Office.Following.step`, `Office.Bears.step`, `Office.Holds.step`: what every step keeps.
* `Office.exists_waiting_eq`: what the next round probes.
* `Office.converges_run`: the registry follows the catalog.
-/

namespace Uptime

variable {σ : Type}

namespace Office

section

variable {settings : OfficeSettings} {ch : Channel σ} {o o' : Office σ} {b : OfficeMove}

/-! ### The listing that was adopted last -/

/-- What is watched is what the listing says that was adopted last. -/
def ShowsLast (o : Office σ) : Prop :=
  o.identities = Registry.watched (o.adopted.getLast?.getD [])

theorem ShowsLast.step (h : o.ShowsLast) (heffect : Effect o b o') : o'.ShowsLast := by
  rw [ShowsLast] at h ⊢
  cases heffect with
  | quiet _ _ _ hidentities _ hadopted _
  | written _ _ _ _ hidentities _ hadopted _
  | listed _ _ _ _ _ hidentities _ _ hadopted => rw [hidentities, hadopted, h]
  | adopted s definitions _ _ _ _ hidentities _ hadopted _ =>
    rw [hidentities, hadopted]
    cases definitions with
    | none => simpa using h
    | some definitions => simp

theorem distinct_step (h : o.catalog.Distinct) (heffect : Effect o b o') :
    o'.catalog.Distinct := by
  cases heffect with
  | quiet _ _ hcatalog
  | listed _ _ _ _ hcatalog
  | adopted _ _ _ _ hcatalog => rwa [hcatalog]
  | written i change _ hstore =>
    rw [catalog, hstore]
    cases change with
    | upsert definition => exact h.upsert definition
    | disable name => exact h.disable name

/-! ### One listing at a time -/

/-- Everybody who may have a listing. -/
def syncers (o : Office σ) : List Syncer :=
  .round :: (List.range o.errands.length).map .errand

/-- One listing at most is to be adopted. -/
def Serial (o : Office σ) : Prop :=
  ∀ s ∈ o.syncers, ∀ s' ∈ o.syncers, (o.underway s).isSome → (o.underway s').isSome → s = s'

instance (o : Office σ) : Decidable o.Serial :=
  inferInstanceAs (Decidable (∀ s ∈ o.syncers, ∀ s' ∈ o.syncers, _ → _ → s = s'))

theorem mem_syncers {s : Syncer} (h : (o.underway s).isSome) : s ∈ o.syncers := by
  cases s with
  | round => exact List.mem_cons_self
  | errand i =>
    have hi : i < o.errands.length := by
      by_contra hi
      simp [underway, List.getElem?_eq_none (Nat.not_lt.mp hi)] at h
    exact List.mem_cons_of_mem _ (List.mem_map_of_mem (List.mem_range.mpr hi))

theorem Serial.eq (h : o.Serial) {s s' : Syncer} (hs : (o.underway s).isSome)
    (hs' : (o.underway s').isSome) : s = s' :=
  h s (mem_syncers hs) s' (mem_syncers hs') hs hs'

/-- The registry follows the catalog: an errand is still to list it, or it has been listed as it is,
and that is to be adopted or has been. -/
def Following (o : Office σ) : Prop :=
  o.Awaiting ∨
    (∀ s definitions, o.underway s = some definitions → definitions = some o.catalog.list) ∧
      ((∀ s, o.underway s = none) →
        o.identities = Registry.watched o.catalog.list ∨ o.adopted = [])

/-- **A step keeps the registry following**, if listings succeed and there is one at most. -/
theorem Following.step (h : o.Following) (heffect : Effect o b o') (hserial : o'.Serial)
    (hlists : ∀ s, b.lists? ≠ some (s, false)) : o'.Following := by
  cases heffect with
  | quiet _ _ hcatalog hidentities hunderway hadopted hawaiting =>
    refine h.imp hawaiting fun ⟨hcurrent, hshown⟩ => ?_
    rw [hunderway, hcatalog, hidentities, hadopted]
    exact ⟨hcurrent, hshown⟩
  | written _ _ _ _ _ _ _ hawaiting => exact .inl hawaiting
  | listed s ok hb _ hcatalog hidentities _ hunderway hadopted =>
    have hok : ok = true := by
      cases ok with
      | true => rfl
      | false => exact absurd hb (hlists s)
    -- whatever was to be adopted before, this listing is the only one now
    have hs : o'.underway s = some (some o.catalog.list) := by
      rw [hunderway, Function.update_self, hok]
      rfl
    refine .inr ⟨fun s' definitions hs' => ?_, fun hnone => ?_⟩
    · have heq : s = s' :=
        hserial.eq (Option.isSome_of_eq_some hs) (Option.isSome_of_eq_some hs')
      subst heq
      rw [hcatalog, ← Option.some.inj (hs.symm.trans hs')]
    · cases hs.symm.trans (hnone s)
  | adopted s definitions _ _ hcatalog hbefore hidentities hunderway _ hawaiting =>
    refine h.imp hawaiting fun ⟨hcurrent, _⟩ => ⟨fun s' definitions' hs' => ?_, fun _ => .inl ?_⟩
    · rw [hcatalog]
      refine hcurrent s' definitions' ?_
      by_cases hne : s' = s
      · rw [hunderway, hne, Function.update_self] at hs'
        cases hs'
      · rwa [hunderway, Function.update_of_ne hne] at hs'
    · -- the listing is of the catalog as it still is
      rw [hidentities, hcatalog, hcurrent s definitions hbefore]
      rfl

/-! ### What a listing may say -/

/-- Every listing under way has the property `P`, except for those of `K`. -/
def Bears (P : List Definition → Prop) (K : Syncer → Prop) (o : Office σ) : Prop :=
  ∀ s definitions, o.underway s = some (some definitions) → P definitions ∨ K s

variable {P : List Definition → Prop} {K : Syncer → Prop}

/-- A step adds no listing without the property if the catalog has it, and one goes when it is
adopted. -/
theorem Bears.step (h : o.Bears P K) (hP : P o.catalog.list) (heffect : Effect o b o') :
    o'.Bears P fun s => K s ∧ b.adopts? ≠ some s := by
  intro s definitions hs
  cases heffect with
  | quiet _ hadopts _ _ hunderway =>
    rw [hunderway] at hs
    exact (h s definitions hs).imp_right fun hK => ⟨hK, by simp [hadopts]⟩
  | written i _ hb _ _ hunderway =>
    rw [hunderway] at hs
    exact (h s definitions hs).imp_right fun hK => ⟨hK, by simp [hb, OfficeMove.adopts?]⟩
  | listed s' ok _ hadopts _ _ _ hunderway =>
    rw [hunderway] at hs
    by_cases hne : s = s'
    · rw [hne, Function.update_self] at hs
      cases ok with
      | false => cases hs
      | true =>
        cases hs
        exact .inl hP
    · rw [Function.update_of_ne hne] at hs
      exact (h s definitions hs).imp_right fun hK => ⟨hK, by simp [hadopts]⟩
  | adopted s' _ _ hadopts _ _ _ hunderway =>
    rw [hunderway] at hs
    by_cases hne : s = s'
    · rw [hne, Function.update_self] at hs
      cases hs
    · rw [Function.update_of_ne hne] at hs
      refine (h s definitions hs).imp_right fun hK => ⟨hK, ?_⟩
      rw [hadopts]
      exact fun heq => hne (Option.some.inj heq).symm

/-- What is watched is what a listing with the property `P` says, or the round is to adopt one; and
no listing without it is under way. -/
def Holds (P : List Definition → Prop) (o : Office σ) : Prop :=
  o.Bears P (fun _ => False) ∧
    ((∃ definitions, o.underway .round = some (some definitions)) ∨
      ∃ definitions, P definitions ∧ o.identities = Registry.watched definitions)

/-- From then on only such listings are adopted. -/
theorem Holds.step (h : o.Holds P) (hP : P o.catalog.list) (heffect : Effect o b o') :
    o'.Holds P := by
  obtain ⟨hbears, hshown⟩ := h
  have hbears' : o'.Bears P fun _ => False := fun s definitions hs =>
    (hbears.step hP heffect s definitions hs).imp_right And.left
  refine ⟨hbears', ?_⟩
  cases heffect with
  | quiet _ _ _ hidentities hunderway
  | written _ _ _ _ hidentities hunderway =>
    rw [hunderway, hidentities]
    exact hshown
  | listed s _ _ _ _ hidentities hbefore hunderway =>
    rw [hidentities, hunderway]
    refine hshown.imp_left fun ⟨definitions, hround⟩ => ⟨definitions, ?_⟩
    -- who lists the catalog has no listing
    have hne : Syncer.round ≠ s := by
      rintro rfl
      cases hbefore.symm.trans hround
    rw [Function.update_of_ne hne, hround]
  | adopted s definitions _ _ _ hbefore hidentities hunderway =>
    cases definitions with
    | none =>
      rw [hidentities, hunderway]
      refine hshown.imp_left fun ⟨definitions, hround⟩ => ⟨definitions, ?_⟩
      have hne : Syncer.round ≠ s := by
        rintro rfl
        cases hbefore.symm.trans hround
      rw [Function.update_of_ne hne, hround]
    | some definitions =>
      refine .inr ⟨definitions, ?_, hidentities⟩
      exact (hbears s definitions hbefore).resolve_right id

/-! ### Runs -/

variable {store : Store} {channel : σ} {moves : List OfficeMove}

/-- The property `C` holds at every point of a run. -/
def Throughout (settings : OfficeSettings) (ch : Channel σ) (C : Office σ → Prop) (o : Office σ)
    (moves : List OfficeMove) : Prop :=
  ∀ ms q, ms <+: moves → o.runFrom? settings ch ms = some q → C q

section

variable {C : Office σ → Prop} {more : List OfficeMove}

/-- At the beginning. -/
theorem Throughout.head (h : Throughout settings ch C o moves) : C o := h [] o List.nil_prefix rfl

/-- In the first part. -/
theorem Throughout.left (h : Throughout settings ch C o (moves ++ more)) :
    Throughout settings ch C o moves := fun ms q hms hq =>
  h ms q (hms.trans (List.prefix_append _ _)) hq

/-- From the end of the first part on. -/
theorem Throughout.right (h : Throughout settings ch C o (moves ++ more))
    (hrun : o.runFrom? settings ch moves = some o') : Throughout settings ch C o' more := by
  intro ms q hms hq
  refine h (moves ++ ms) q ((List.prefix_append_right_inj moves).mpr hms) ?_
  rw [runFrom?_append, hrun]
  exact hq

/-- After the first step. -/
theorem Throughout.tail (h : Throughout settings ch C o (b :: moves))
    (hstep : o.step? settings ch b = some o') : Throughout settings ch C o' moves := by
  intro ms q hms hq
  refine h (b :: ms) q (List.cons_prefix_cons.mpr ⟨rfl, hms⟩) ?_
  rw [runFrom?_cons, hstep]
  exact hq

end

/-- What is kept by every step as long as `C` holds is kept by a run throughout which it holds. -/
theorem runFrom?_along {C R : Office σ → Prop} (hbegin : R o)
    (hstep : ∀ {q q' : Office σ} {b : OfficeMove}, b ∈ moves → C q → C q' → R q →
      Step settings ch q b q' → R q')
    (hC : Throughout settings ch C o moves) (h : o.runFrom? settings ch moves = some o') :
    R o' := by
  induction moves generalizing o with
  | nil =>
    cases h
    exact hbegin
  | cons b moves ih =>
    rw [runFrom?_cons] at h
    obtain ⟨q, hq, hrest⟩ := Option.bind_eq_some_iff.mp h
    have hlater := hC.tail hq
    have hnow : R q := hstep List.mem_cons_self hC.head hlater.head hbegin (.of_step? hq)
    exact ih hnow (fun hb => hstep (List.mem_cons_of_mem _ hb)) hlater hrest

/-- Listings under way at the beginning are under way no longer when they have been adopted. -/
theorem Bears.run (h : o.Bears P K)
    (hP : Throughout settings ch (fun q => P q.catalog.list) o moves)
    (hrun : o.runFrom? settings ch moves = some o') :
    o'.Bears P fun s => K s ∧ ∀ b ∈ moves, b.adopts? ≠ some s := by
  induction moves generalizing o K with
  | nil =>
    cases hrun
    exact fun s definitions hs => (h s definitions hs).imp_right fun hK => ⟨hK, by simp⟩
  | cons b moves ih =>
    rw [runFrom?_cons] at hrun
    obtain ⟨q, hq, hrest⟩ := Option.bind_eq_some_iff.mp hrun
    have hnext := h.step hP.head (Step.of_step? hq).effect
    intro s definitions hs
    refine (ih hnext (hP.tail hq) hrest s definitions hs).imp_right fun ⟨⟨hK, hb⟩, hmoves⟩ =>
      ⟨hK, fun b' hb' => ?_⟩
    rcases List.mem_cons.mp hb' with rfl | hb'
    · exact hb
    · exact hmoves b' hb'

theorem showsLast_run (h : run? settings ch store channel moves = some o) : o.ShowsLast := by
  have hfresh : (fresh store channel).ShowsLast := rfl
  exact runFrom?_induction hfresh (fun hq hstep => hq.step hstep.effect) h

theorem distinct_run (hstore : store.catalog.Distinct)
    (h : run? settings ch store channel moves = some o) : o.catalog.Distinct :=
  runFrom?_induction (P := fun q => q.catalog.Distinct) hstore
    (fun hq hstep => distinct_step hq hstep.effect) h

/-- A listing that is made by the round will be adopted by it. -/
theorem holds_listed (h : o.Bears P fun _ => False) (hP : P o.catalog.list)
    (hb : b.lists? = some (.round, true)) (heffect : Effect o b o') : o'.Holds P := by
  refine ⟨fun s definitions hs => (h.step hP heffect s definitions hs).imp_right And.left, .inl ?_⟩
  cases heffect with
  | quiet hlists => cases hlists.symm.trans hb
  | written i _ heq =>
    rw [heq] at hb
    cases hb
  | listed s ok hlists _ _ _ _ hunderway =>
    cases hlists.symm.trans hb
    exact ⟨o.catalog.list, by rw [hunderway, Function.update_self]; rfl⟩
  | adopted _ _ hlists => cases hlists.symm.trans hb

/-- When the targets of a round are read, they are those of a listing with the property `P`. -/
theorem Holds.waiting_of_read (h : o.Holds P)
    (hread : o.step? settings ch (.within (.within .read)) = some o') :
    ∃ definitions, P definitions ∧ o'.station.round.waiting = Registry.watched definitions := by
  cases Step.of_step? hread with
  | within _ hstep =>
    obtain ⟨r, hr, rfl⟩ := Option.map_eq_some_iff.mp hstep
    cases Round.Step.of_step? hr with
    | read hreading =>
      rcases h.2 with ⟨definitions, hround⟩ | hshown
      · -- the round has adopted its listing before
        rw [underway, Round.adopting?, hreading] at hround
        cases hround
      · exact hshown

theorem following_run (hlists : ∀ b ∈ moves, ∀ s, b.lists? ≠ some (s, false))
    (hserial : Throughout settings ch Serial (fresh store channel) moves)
    (h : run? settings ch store channel moves = some o) : o.Following := by
  have hfresh : (fresh store channel).Following := by
    refine .inr ⟨fun s definitions hs => ?_, fun _ => .inr rfl⟩
    cases s <;> cases hs
  exact runFrom?_along hfresh
    (fun hb _ hserial hq hstep => hq.step hstep.effect hserial (hlists _ hb)) hserial h

/-- A catalog stays as it is as long as nothing is written. -/
theorem catalog_eq_of_run (hmoves : ∀ b ∈ moves, ∀ i, b ≠ .written i (.ok ()))
    (h : o.runFrom? settings ch moves = some o') : o'.catalog = o.catalog := by
  refine runFrom?_along (C := fun _ => True) (R := fun q => q.catalog = o.catalog) rfl
    (fun {q q' b} hb _ _ hq hstep => ?_) (fun _ _ _ _ => trivial) h
  cases hstep.effect with
  | quiet _ _ hcatalog
  | listed _ _ _ _ hcatalog
  | adopted _ _ _ _ hcatalog => rw [hcatalog, hq]
  | written i _ heq => exact absurd heq (hmoves b hb i)

/-! ### When nothing is being synchronised -/

/-- No change of the catalog and no synchronisation is in progress. -/
def Idle (o : Office σ) : Prop :=
  (∀ stage ∈ o.errands, stage.syncs = false) ∧ o.station.round.adopting? = none

instance (o : Office σ) : Decidable o.Idle := inferInstanceAs (Decidable (_ ∧ _))

/-- When nothing is in progress the registry has followed the catalog, or has not been synchronised
so far. -/
theorem Following.of_idle (h : o.Following) (hidle : o.Idle) :
    o.identities = Registry.watched o.catalog.list ∨ o.adopted = [] := by
  obtain ⟨herrands, hround⟩ := hidle
  rcases h with ⟨i, hi⟩ | ⟨-, hshown⟩
  · cases herrands _ (List.mem_of_getElem? hi)
  · refine hshown fun s => ?_
    cases s with
    | round => exact hround
    | errand i =>
      rw [underway, Option.bind_eq_none_iff]
      intro stage hstage
      have hsyncs := herrands stage (List.mem_of_getElem? hstage)
      cases stage with
      | adopting definitions => cases hsyncs
      | _ => rfl

/-- How the registry follows the catalog, in all runs of an office. -/
structure Converges (settings : OfficeSettings) (ch : Channel σ) (store : Store) (channel : σ) :
    Prop where
  /-- What is watched is what the listing says that was adopted last. -/
  shows_last : ∀ moves o, run? settings ch store channel moves = some o → o.ShowsLast
  /-- If listings succeed and are made and adopted one after the other, then whenever nothing is in
  progress it is what the catalog says, exactly if the catalog is read back as it was stored. -/
  mirrored_iff : ∀ moves o, run? settings ch store channel moves = some o →
    (∀ b ∈ moves, ∀ s, b.lists? ≠ some (s, false)) →
    (∀ ms q, ms <+: moves → run? settings ch store channel ms = some q → q.Serial) →
    o.Idle → o.adopted ≠ [] →
    (o.catalog.MirroredBy o.identities ↔ ∀ d ∈ o.catalog.entries, d.Usable → d.Legible)
  /-- In any run, once all listings that were under way at some time have been adopted, the next
  round that lists the catalog probes what it has said at that time or later; and if nothing has
  been written since, what it has said at that time. -/
  next_round : ∀ (o o₁ o₂ : Office σ) (between rest : List OfficeMove),
    o.runFrom? settings ch between = some o₁ →
    (∀ s, (o.underway s).isSome → ∃ b ∈ between, b.adopts? = some s) →
    .within (.within (.listed true)) ∈ rest →
    o₁.runFrom? settings ch (rest ++ [.within (.within .read)]) = some o₂ →
    ∃ ms q, ms <+: between ++ rest ∧ o.runFrom? settings ch ms = some q ∧
      o₂.station.round.waiting = Registry.watched q.catalog.list ∧
      ((∀ b ∈ between ++ rest, ∀ i, b ≠ .written i (.ok ())) →
        o₂.station.round.waiting = Registry.watched o.catalog.list)

/-- **The next round probes what the catalog has said since.** -/
theorem exists_waiting_eq {o₁ o₂ : Office σ} {between rest : List OfficeMove}
    (hbetween : o.runFrom? settings ch between = some o₁)
    (hadopted : ∀ s, (o.underway s).isSome → ∃ b ∈ between, b.adopts? = some s)
    (hlisted : .within (.within (.listed true)) ∈ rest)
    (hrest : o₁.runFrom? settings ch (rest ++ [.within (.within .read)]) = some o₂) :
    ∃ ms q, ms <+: between ++ rest ∧ o.runFrom? settings ch ms = some q ∧
      o₂.station.round.waiting = Registry.watched q.catalog.list := by
  -- what the catalog has said since
  let P (definitions : List Definition) : Prop := ∃ ms q, ms <+: between ++ rest ∧
    o.runFrom? settings ch ms = some q ∧ definitions = q.catalog.list
  have hP : Throughout settings ch (fun q => P q.catalog.list) o (between ++ rest) :=
    fun ms q hms hq => ⟨ms, q, hms, hq, rfl⟩
  have hbears : o.Bears P fun s => (o.underway s).isSome := fun s definitions hs =>
    .inr (Option.isSome_of_eq_some hs)
  have hbears₁ : o₁.Bears P fun _ => False := fun s definitions hs =>
    (hbears.run hP.left hbetween s definitions hs).imp_right fun ⟨hbefore, hnot⟩ => by
      obtain ⟨b, hb, heq⟩ := hadopted s hbefore
      exact hnot b hb heq
  have hP₁ := hP.right hbetween
  -- up to the listing of the round, then the listing, then the rest
  obtain ⟨before, after, rfl⟩ := List.append_of_mem hlisted
  rw [List.append_assoc, List.cons_append, runFrom?_append] at hrest
  obtain ⟨q, hq, hrest⟩ := Option.bind_eq_some_iff.mp hrest
  rw [runFrom?_cons] at hrest
  obtain ⟨q', hq', hrest⟩ := Option.bind_eq_some_iff.mp hrest
  rw [runFrom?_append] at hrest
  obtain ⟨q'', hq'', hread⟩ := Option.bind_eq_some_iff.mp hrest
  have hbears₂ : q.Bears P fun _ => False := fun s definitions hs =>
    (hbears₁.run hP₁.left hq s definitions hs).imp_right And.left
  have hP₂ := hP₁.right hq
  have hholds : q'.Holds P := holds_listed hbears₂ hP₂.head rfl (Step.of_step? hq').effect
  have hholds' : q''.Holds P :=
    runFrom?_along hholds (fun _ hnow _ hholds hstep => hholds.step hnow hstep.effect)
      (hP₂.tail hq') hq''
  rw [runFrom?_cons] at hread
  obtain ⟨o₂', ho₂, heq⟩ := Option.bind_eq_some_iff.mp hread
  cases heq
  obtain ⟨definitions, ⟨ms, p, hms, hp, rfl⟩, hwaiting⟩ := hholds'.waiting_of_read ho₂
  exact ⟨ms, p, hms, hp, hwaiting⟩

/-- **The registry follows the catalog.** -/
theorem converges_run (hstore : store.catalog.Distinct) :
    Converges settings ch store channel where
  shows_last moves o h := showsLast_run h
  mirrored_iff moves o h hlists hserial hidle hadopted := by
    have hshown := ((following_run hlists hserial h).of_idle hidle).resolve_right hadopted
    rw [hshown]
    exact Catalog.mirroredBy_watched_iff (distinct_run hstore h)
  next_round o o₁ o₂ between rest hbetween hadopted hlisted hrest := by
    obtain ⟨ms, q, hms, hq, hwaiting⟩ := exists_waiting_eq hbetween hadopted hlisted hrest
    refine ⟨ms, q, hms, hq, hwaiting, fun hunwritten => ?_⟩
    rw [hwaiting, catalog_eq_of_run (fun b hb => hunwritten b (hms.subset hb)) hq]

/-- A target is written into the catalog, and the registry follows; with a NUL in its name it does
not. Nor does it if a listing that was made before is adopted afterwards, though no text has a NUL
in it: then the target is not watched when nothing is in progress any more, until the next round
lists the catalog. -/
theorem converges_run_overtaken :
    let settings : OfficeSettings := ⟨.ofSeconds 30, 0, 100⟩
    let store : Store := ⟨⟨[⟨"web", "a", 80, true⟩]⟩, {}⟩
    let run (moves : List OfficeMove) : Option (Office Script) :=
      run? settings Script.channel store {} moves
    let written (name : String) (i : Nat) : List OfficeMove :=
      [.begun (.upsert name "a" 5432), .written i (.ok ()), .listed i true, .adopted i]
    let overtaken : List OfficeMove :=
      [.begun .sync, .listed 0 true] ++ written "db" 1 ++ [.adopted 0]
    let round : List OfficeMove :=
      [.within (.within (.listed true)), .within (.within .adopted), .within (.within .read)]
    Converges settings Script.channel store ({} : Script) ∧
      (∃ o, run (written "db" 0) = some o ∧ o.Idle ∧ o.catalog.MirroredBy o.identities) ∧
      (∃ o, run (written "\x00db" 0) = some o ∧ o.Idle ∧ ¬ o.catalog.MirroredBy o.identities) ∧
      (∃ o, run overtaken = some o ∧ o.Idle ∧ o.adopted ≠ [] ∧
        (∀ d ∈ o.catalog.entries, d.Usable → d.Legible) ∧ ¬ o.catalog.MirroredBy o.identities) ∧
      (run (overtaken ++ round)).map (fun o => o.station.round.waiting.map Identity.name) =
        some ["db", "web"] := by
  intro settings store run written overtaken round
  have hconverges : Converges settings Script.channel store ({} : Script) :=
    converges_run (by decide)
  -- a single change, so one listing at most is under way; what is left is to read the catalog
  have hmirrored : ∀ name, (run (written name 0)).isSome →
      (∀ ms ∈ (written name 0).inits, ∀ q ∈ run ms, q.Serial) →
      (∀ o ∈ run (written name 0), o.Idle ∧ o.adopted ≠ []) →
      ∃ o, run (written name 0) = some o ∧ o.Idle ∧ (o.catalog.MirroredBy o.identities ↔
        ∀ d ∈ o.catalog.entries, d.Usable → d.Legible) := by
    intro name hrun hserial hidle
    obtain ⟨o, ho⟩ := Option.isSome_iff_exists.mp hrun
    obtain ⟨hidle, hadopted⟩ := hidle o ho
    refine ⟨o, ho, hidle, hconverges.mirrored_iff _ o ho ?_ ?_ hidle hadopted⟩
    · simp [written, OfficeMove.lists?]
    · exact fun ms q hms hq => hserial ms ((List.mem_inits ms _).mpr hms) q hq
  have hlegible : ∀ o ∈ run (written "db" 0), ∀ d ∈ o.catalog.entries, d.Usable → d.Legible := by
    decide +kernel
  have hcut : ∀ o ∈ run (written "\x00db" 0),
      ¬ ∀ d ∈ o.catalog.entries, d.Usable → d.Legible := by
    decide +kernel
  obtain ⟨o, ho, hidle, hiff⟩ := hmirrored "db" (by decide +kernel) (by decide +kernel)
    (by decide +kernel)
  obtain ⟨o', ho', hidle', hiff'⟩ := hmirrored "\x00db" (by decide +kernel) (by decide +kernel)
    (by decide +kernel)
  have hovertaken : ∃ o ∈ run overtaken, o.Idle ∧ o.adopted ≠ [] ∧
      (∀ d ∈ o.catalog.entries, d.Usable → d.Legible) ∧ ¬ o.catalog.MirroredBy o.identities := by
    decide +kernel
  exact ⟨hconverges, ⟨o, ho, hidle, hiff.mpr (hlegible o ho)⟩,
    ⟨o', ho', hidle', mt hiff'.mp (hcut o' ho')⟩, hovertaken, by decide +kernel⟩

end

end Office

end Uptime

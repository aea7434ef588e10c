import Uptime.Proofs.Office
import Uptime.Proofs.Unlogged

/-!
# Failures that disturb nothing

Neither the check log nor the channel has a say in what an office does. What is watched, which
events are handed over and which calls are made does not depend on whether results can be recorded
and rows can be read; and what is watched, handed over and recorded does not depend on whether
messages and edits are delivered. Both are shown in the same way: what a step does to the part of an
office that matters follows from that part alone.

## Main definitions

* `Office.unlogged`: an office without its check log and what was recorded in it or read from it.
* `Office.deskless`: an office without its desk.
* `Office.Undisturbed`, `Office.Unaffected`: what two such runs have in common.

## Main results

* `Office.step?_congr`, `Office.step?_unlogged`: a step does not depend on the check log.
* `Office.step?_deskless`: a step does not depend on the desk.
* `Office.undisturbed_run`: two runs that differ in such failures only are the same but for these.
-/

namespace Uptime

variable {σ τ : Type}

/-- Two machines of which each step shows the same show the same in the end. -/
theorem map_foldlM_eq {α α' β β' γ : Type} {f : α → β → Option α} {g : α' → β' → Option α'}
    {p : α → γ} {q : α' → γ} {R : β → β' → Prop}
    (hstep : ∀ {a a' b b'}, p a = q a' → R b b' → (f a b).map p = (g a' b').map q)
    {bs : List β} {bs' : List β'} (hbs : List.Forall₂ R bs bs') {a : α} {a' : α'}
    (h : p a = q a') : (bs.foldlM f a).map p = (bs'.foldlM g a').map q := by
  induction hbs generalizing a a' with
  | nil => exact congrArg some h
  | cons hb _ ih =>
    have hnext := hstep h hb
    rw [List.foldlM_cons, List.foldlM_cons, Option.bind_eq_bind, Option.bind_eq_bind]
    cases hfa : f a _ with
    | none =>
      rw [hfa, Option.map_none] at hnext
      rw [Option.map_eq_none_iff.mp hnext.symm]
      rfl
    | some a₁ =>
      rw [hfa, Option.map_some] at hnext
      obtain ⟨a₁', ha₁', heq⟩ := Option.map_eq_some_iff.mp hnext.symm
      rw [ha₁']
      exact ih heq.symm

/-- Two states that are shown alike by `p` and `q` are shown alike by `f` and `g` if all that are
are. -/
theorem map_eq_map_of {α α' γ δ : Type} {p : α → γ} {q : α' → γ} {f : α → δ} {g : α' → δ}
    {x : Option α} {y : Option α'} (h : x.map p = y.map q)
    (hfg : ∀ {a a'}, p a = q a' → f a = g a') : x.map f = y.map g := by
  cases x <;> cases y <;> simp at h ⊢
  exact hfg h

/-- Two states that are shown alike are related if all that are shown alike are. -/
theorem rel_of_map_eq {α α' γ : Type} {p : α → γ} {q : α' → γ} {R : α → α' → Prop}
    (hR : ∀ {a a'}, p a = q a' → R a a') {x : Option α} {y : Option α'}
    (h : x.map p = y.map q) : Option.Rel R x y := by
  cases x <;> cases y <;> simp at h
  · exact .none
  · exact .some (hR h)

/-! ### What does not depend on the check log -/

/-- A result that was handed to the check log, whether or not it was recorded. -/
def Attempt.unlogged (a : Attempt) : Attempt := { a with recorded := true }

/-- A round without the check log, and without what was recorded. -/
def Round.unlogged (r : Round) : Round :=
  { r with monitor := r.monitor.unlogged, attempts := r.attempts.map Attempt.unlogged }

/-- A move of a round, whether or not a result can be recorded. -/
def RoundMove.unlogged : RoundMove → RoundMove
  | recorded i _ => recorded i true
  | a => a

namespace Round

variable (workers : Nat) {r r' : Round}

/-- Whether a result can be recorded does not matter. -/
theorem step?_unlogged (a : RoundMove) :
    (r.step? workers a.unlogged).map unlogged = (r.step? workers a).map unlogged := by
  cases a with
  | recorded i ok =>
    simp only [RoundMove.unlogged, step?]
    split
    · cases ok <;> simp [unlogged, Attempt.unlogged, Monitor.unlogged]
    · rfl
  | _ => rfl

/-- Two rounds that differ in their logs only, part by part. -/
private theorem unlogged_mk {registry : Registry} {catalog : Catalog} {log log' : CheckLog}
    {stage : RoundStage} {tasks : List ProbeTask} {attempts attempts' : List Attempt}
    {events : List Event} {batches : List (List Event)}
    (h : attempts.map Attempt.unlogged = attempts'.map Attempt.unlogged) :
    Round.unlogged ⟨⟨registry, ⟨catalog, log⟩⟩, stage, tasks, attempts, events, batches⟩ =
      Round.unlogged ⟨⟨registry, ⟨catalog, log'⟩⟩, stage, tasks, attempts', events, batches⟩ := by
  simp [unlogged, Monitor.unlogged, h]

/-- **A step of a round does not depend on the check log.** -/
theorem step?_congr (h : r.unlogged = r'.unlogged) (a : RoundMove) :
    (r.step? workers a).map unlogged = (r'.step? workers a).map unlogged := by
  obtain ⟨⟨registry, catalog, log⟩, stage, tasks, attempts, events, batches⟩ := r
  obtain ⟨⟨registry', catalog', log'⟩, stage', tasks', attempts', events', batches'⟩ := r'
  simp only [unlogged, Monitor.unlogged, mk.injEq, Monitor.mk.injEq, Store.mk.injEq] at h
  obtain ⟨⟨rfl, rfl, -⟩, rfl, rfl, hattempts, rfl, rfl⟩ := h
  -- both take the same branch, since none looks at the log or at what was recorded
  cases a with
  | listed ok =>
    cases stage with
    | listing => exact congrArg some (unlogged_mk hattempts)
    | _ => rfl
  | adopted =>
    cases stage with
    | adopting definitions =>
      cases definitions with
      | none => exact congrArg some (unlogged_mk hattempts)
      | some definitions => exact congrArg some (unlogged_mk hattempts)
    | _ => rfl
  | read =>
    cases stage with
    | reading => exact congrArg some (unlogged_mk hattempts)
    | _ => rfl
  | launched =>
    cases stage with
    | probing w ids =>
      cases ids with
      | nil => rfl
      | cons id ids =>
        simp only [step?, busy]
        by_cases hbusy : tasks.countP (fun t => t.stage.isBusy) < w
        · simp only [hbusy, ↓reduceIte]
          exact congrArg some (unlogged_mk hattempts)
        · simp only [hbusy, ↓reduceIte]
    | _ => rfl
  | died i =>
    simp only [step?]
    split
    · exact congrArg some (unlogged_mk hattempts)
    · rfl
  | returned i up now =>
    simp only [step?]
    split
    · split
      · exact congrArg some (unlogged_mk hattempts)
      · exact congrArg some (unlogged_mk hattempts)
    · rfl
  | recorded i ok =>
    simp only [step?]
    split
    · next id result event _ =>
      have hmore : (attempts ++ [(⟨result, ok⟩ : Attempt)]).map Attempt.unlogged =
          (attempts' ++ [(⟨result, ok⟩ : Attempt)]).map Attempt.unlogged := by
        rw [List.map_append, List.map_append, hattempts]
      cases ok with
      | true => exact congrArg some (unlogged_mk hmore)
      | false => exact congrArg some (unlogged_mk hmore)
    · rfl
  | collected i =>
    simp only [step?]
    split
    · exact congrArg some (unlogged_mk hattempts)
    · rfl
  | handed =>
    simp only [step?]
    split
    · split
      · exact congrArg some (unlogged_mk hattempts)
      · rfl
    · rfl
  | cancelled =>
    simp only [step?]
    split
    · exact congrArg some (unlogged_mk hattempts)
    · rfl
  | stored store => exact congrArg some (unlogged_mk hattempts)
  | replaced definitions => exact congrArg some (unlogged_mk hattempts)

end Round

/-! ### Offices -/

/-- A move of an office, whether or not the check log can be written and read. -/
def OfficeMove.unlogged : OfficeMove → OfficeMove
  | within (.within a) => within (.within a.unlogged)
  | read i now _ => read i now true
  | b => b

/-- An errand without the rows that it has read; whether there is such a target is kept. -/
def ErrandStage.unlogged : ErrandStage → ErrandStage
  | returned (.rows rows) => returned (.rows (rows.map fun _ => []))
  | stage => stage

/-- Only what has been read is forgotten of an errand. -/
theorem ErrandStage.of_unlogged {s s' : ErrandStage} (h : s.unlogged = s'.unlogged) :
    s = s' ∨ ∃ reply reply', s = returned reply ∧ s' = returned reply' := by
  cases s with
  | returned reply =>
    cases s' with
    | returned reply' => exact .inr ⟨reply, reply', rfl, rfl⟩
    | _ => cases reply <;> cases h
  | _ =>
    cases s' with
    | returned reply' => cases reply' <;> cases h
    | _ => exact .inl h

/-- An office without its check log and what was recorded in it or read from it. -/
def Office.unlogged (o : Office σ) : Office σ :=
  { o with
    station.round := o.station.round.unlogged
    errands := o.errands.map ErrandStage.unlogged
    past := o.past.map Round.unlogged }

namespace Office

variable {settings : OfficeSettings} {ch : Channel σ} {o o' : Office σ}

theorem unlogged_withMonitor (o : Office σ) (m : Monitor) :
    (o.withMonitor m).unlogged = o.unlogged.withMonitor m.unlogged := rfl

theorem unlogged_enter (o : Office σ) (i : Nat) (stage : ErrandStage) :
    (o.enter i stage).unlogged = o.unlogged.enter i stage.unlogged := by
  simp [unlogged, enter, List.map_set]

/-- Two offices differ in their logs only. -/
theorem unlogged_eq_iff : o.unlogged = o'.unlogged ↔
    o.station.round.unlogged = o'.station.round.unlogged ∧ o.station.desk = o'.station.desk ∧
      o.errands.map ErrandStage.unlogged = o'.errands.map ErrandStage.unlogged ∧
      o.past.map Round.unlogged = o'.past.map Round.unlogged ∧ o.adopted = o'.adopted := by
  simp [unlogged, and_assoc]

theorem monitor_of_unlogged (h : o.unlogged = o'.unlogged) :
    o.monitor.unlogged = o'.monitor.unlogged := congrArg Office.monitor h

theorem stage_of_unlogged (h : o.unlogged = o'.unlogged) :
    o.station.round.stage = o'.station.round.stage :=
  congrArg (fun q => q.station.round.stage) h

/-- An errand is as far in both offices, or it is over in both. -/
theorem errand_of_unlogged (h : o.unlogged = o'.unlogged) (i : Nat) :
    o.errands[i]? = o'.errands[i]? ∨ ∃ reply reply',
      o.errands[i]? = some (.returned reply) ∧ o'.errands[i]? = some (.returned reply') := by
  have hstage :
      o.errands[i]?.map ErrandStage.unlogged = o'.errands[i]?.map ErrandStage.unlogged := by
    rw [← List.getElem?_map, ← List.getElem?_map, (unlogged_eq_iff.mp h).2.2.1]
  cases hs : o.errands[i]? with
  | none =>
    rw [hs, Option.map_none] at hstage
    exact .inl (Option.map_eq_none_iff.mp hstage.symm).symm
  | some s =>
    rw [hs, Option.map_some] at hstage
    obtain ⟨s', hs', heq⟩ := Option.map_eq_some_iff.mp hstage.symm
    rw [hs']
    rcases ErrandStage.of_unlogged heq with rfl | ⟨reply', reply, rfl, rfl⟩
    · exact .inl rfl
    · exact .inr ⟨reply, reply', rfl, rfl⟩

theorem round_withMonitor_congr (h : o.station.round.unlogged = o'.station.round.unlogged)
    {m m' : Monitor} (hm : m.unlogged = m'.unlogged) :
    (o.withMonitor m).station.round.unlogged = (o'.withMonitor m').station.round.unlogged :=
  congrArg₂ (fun (r : Round) m => { r with monitor := m }) h hm

/-- A change of the catalog does not depend on the check log. -/
theorem change_congr {m m' : Monitor} (h : m.unlogged = m'.unlogged) (change : CatalogChange) :
    ({ m with store := m.store.change change } : Monitor).unlogged =
      ({ m' with store := m'.store.change change } : Monitor).unlogged := by
  obtain ⟨hregistry, hcatalog⟩ := Monitor.unlogged_eq_iff.mp h
  refine Monitor.unlogged_eq_iff.mpr ⟨hregistry, ?_⟩
  cases change with
  | upsert definition => exact congrArg (Catalog.upsert · definition) hcatalog
  | disable name => exact congrArg (Catalog.disable · name) hcatalog

/-- How an errand begins does not depend on the check log. -/
theorem start_congr {m m' : Monitor} (h : m.unlogged = m'.unlogged) (ceiling : Nat)
    (errand : Errand) : errand.start ceiling m = errand.start ceiling m' := by
  cases errand with
  | logs target days limit =>
    rw [Errand.start, Errand.start, Monitor.logQuery?, Monitor.logQuery?,
      (Monitor.unlogged_eq_iff.mp h).1]
  | _ => rfl

/-- A move of the station does not depend on the check log. -/
private theorem within_congr (h : o.unlogged = o'.unlogged) (b : StationMove) :
    (o.step? settings ch (.within b)).map unlogged =
      (o'.step? settings ch (.within b)).map unlogged := by
  obtain ⟨hround, hdesk, herrands, hpast, hadopted⟩ := unlogged_eq_iff.mp h
  have hstage := stage_of_unlogged h
  simp only [step?]
  split
  · rfl
  · cases b with
    | begun =>
      by_cases hfinished : o.station.round.stage = .finished
      · have hfinished' := hstage ▸ hfinished
        rw [Station.step?, Station.step?, if_pos hfinished, if_pos hfinished']
        refine congrArg some (unlogged_eq_iff.mpr ⟨?_, hdesk, herrands, ?_, ?_⟩)
        · simp [Round.unlogged, monitor_of_unlogged h]
        · simp [Station.concludes, hpast, hround]
        · simp [Station.adopts, hadopted]
      · simp [Station.step?, hfinished, ← hstage]
    | within a =>
      simp only [Station.step?, Option.map_map]
      -- the round goes on alike, and so does all that depends on it
      refine map_eq_map_of (Round.step?_congr settings.workers hround a) fun {q q'} heq => ?_
      have hevents : o.station.round.events = o'.station.round.events := by
        simpa [Round.unlogged] using congrArg Round.events hround
      have hadopts : o.station.adopts (.within a) = o'.station.adopts (.within a) := by
        cases a <;> simp [Station.adopts, Round.adopting?, hstage]
      refine unlogged_eq_iff.mpr ⟨heq, ?_, herrands, ?_, ?_⟩
      · simp only [Function.comp_apply, hdesk, hevents]
      · simp [Station.concludes, hpast]
      · simp only [Function.comp_apply, hadopted, hadopts]

/-- **A step of an office does not depend on the check log.** -/
theorem step?_congr (h : o.unlogged = o'.unlogged) (b : OfficeMove) :
    (o.step? settings ch b).map unlogged = (o'.step? settings ch b).map unlogged := by
  have hmonitor := monitor_of_unlogged h
  obtain ⟨hround, hdesk, herrands, hpast, hadopted⟩ := unlogged_eq_iff.mp h
  cases b with
  | within b => exact within_congr h b
  | begun errand =>
    have hstart := start_congr hmonitor settings.ceiling errand
    refine congrArg some (unlogged_eq_iff.mpr ⟨hround, hdesk, ?_, hpast, hadopted⟩)
    rw [List.map_append, List.map_append, herrands, hstart]
  | written i writing =>
    -- an errand that is over in one office is over in the other, and has no turn in either
    rcases errand_of_unlogged h i with heq | ⟨reply, reply', heq, heq'⟩
    · simp only [step?, heq]
      split
      · next change _ =>
        cases writing with
        | error failure => simp [unlogged_enter, h]
        | ok => simp [unlogged_enter, unlogged_withMonitor, h, change_congr hmonitor change]
      · rfl
    · simp [step?, heq, heq']
  | listed i ok =>
    rcases errand_of_unlogged h i with heq | ⟨reply, reply', heq, heq'⟩
    · simp only [step?, heq]
      split
      · simp [unlogged_enter, h, Monitor.listing_congr hmonitor]
      · rfl
    · simp [step?, heq, heq']
  | adopted i =>
    rcases errand_of_unlogged h i with heq | ⟨reply, reply', heq, heq'⟩
    · simp only [step?, heq]
      split
      · next definitions _ =>
        refine congrArg some (unlogged_eq_iff.mpr ⟨?_, hdesk, ?_, hpast, ?_⟩)
        · exact round_withMonitor_congr hround (Monitor.adopt_congr hmonitor definitions)
        · simp [enter, withMonitor, List.map_set, herrands]
        · rw [hadopted]
      · rfl
    · simp [step?, heq, heq']
  | read i now ok =>
    rcases errand_of_unlogged h i with heq | ⟨reply, reply', heq, heq'⟩
    · simp only [step?, heq]
      split
      · simp [unlogged_enter, h, ErrandStage.unlogged]
      · rfl
    · simp [step?, heq, heq']

/-- Whether the check log can be written and read does not matter. -/
theorem step?_unlogged (b : OfficeMove) :
    (o.step? settings ch b.unlogged).map unlogged = (o.step? settings ch b).map unlogged := by
  cases b with
  | within b =>
    cases b with
    | begun => rfl
    | within a =>
      cases a with
      | recorded i ok =>
        have hown : ∀ ok', (StationMove.within (.recorded i ok')).isForeign = false := fun _ => rfl
        simp only [OfficeMove.unlogged, step?, Station.step?, RoundMove.unlogged, hown,
          Bool.false_eq_true, ↓reduceIte, Option.map_map]
        exact map_eq_map_of (Round.step?_unlogged settings.workers (.recorded i ok)) fun heq =>
          unlogged_eq_iff.mpr ⟨heq, rfl, rfl, rfl, rfl⟩
      | _ => rfl
  | read i now ok =>
    simp only [OfficeMove.unlogged, step?]
    split
    · simp [unlogged_enter, ErrandStage.unlogged]
    · rfl
  | _ => rfl

/-- **A run of an office does not depend on the check log**, nor on whether it can be written and
read. -/
theorem runFrom?_congr {moves moves' : List OfficeMove} (h : o.unlogged = o'.unlogged)
    (hmoves : moves.map OfficeMove.unlogged = moves'.map OfficeMove.unlogged) :
    (o.runFrom? settings ch moves).map unlogged =
      (o'.runFrom? settings ch moves').map unlogged := by
  have hforall :
      List.Forall₂ Eq (moves.map OfficeMove.unlogged) (moves'.map OfficeMove.unlogged) := by
    rw [hmoves]
    exact List.forall₂_refl _
  refine map_foldlM_eq (fun {q q' b b'} hq hb => ?_)
    (List.forall₂_map_right_iff.mp (List.forall₂_map_left_iff.mp hforall)) h
  rw [← step?_unlogged, ← step?_unlogged (o := q'), hb]
  exact step?_congr hq _

end Office

/-! ### What does not depend on the channel -/

/-- A channel on which nothing is heard. -/
def Channel.silent : Channel Unit where
  send _ s := (true, s)
  sendTracked _ s := (.untracked, s)
  edit _ _ s := (true, s)
  sendTo _ _ s := (true, s)

namespace Office

/-- An office without its desk. -/
def deskless (o : Office σ) : Office Unit :=
  { o with station := ⟨o.station.round, { channel := () }⟩ }

variable {settings : OfficeSettings} {ch : Channel σ}

/-- **A step of an office does not depend on the desk.** -/
theorem step?_deskless (o : Office σ) (b : OfficeMove) :
    (o.step? settings ch b).map deskless = (o.deskless.step? settings .silent b).map deskless := by
  cases b with
  | within b =>
    simp only [step?]
    split
    · rfl
    · cases b with
      | begun =>
        by_cases hfinished : o.station.round.stage = .finished
        · simp [Station.step?, deskless, hfinished, Station.concludes, Station.adopts]
        · simp [Station.step?, deskless, hfinished]
      | within a =>
        -- what the desk makes of the events is forgotten on both sides
        simp only [Station.step?, deskless, Option.map_map]
        rfl
  | begun errand => rfl
  | written i writing =>
    simp only [step?, deskless]
    split
    · split <;> rfl
    · rfl
  | listed i ok
  | adopted i
  | read i now ok =>
    simp only [step?, deskless]
    split <;> rfl

/-- **A run of an office does not depend on the desk.** -/
theorem runFrom?_deskless {ch' : Channel τ} {o : Office σ} {o' : Office τ}
    (h : o.deskless = o'.deskless) (moves : List OfficeMove) :
    (o.runFrom? settings ch moves).map deskless =
      (o'.runFrom? settings ch' moves).map deskless := by
  refine map_foldlM_eq (R := Eq) (fun {q q' b b'} hq hb => ?_) (List.forall₂_refl moves) h
  rw [step?_deskless q, hq, ← step?_deskless q', hb]

/-! ### What is handed on -/

/-- The rounds so far. -/
def rounds (o : Office σ) : List Round := o.past ++ [o.station.round]

/-- The batches that have been handed over. -/
def batches (o : Office σ) : List (List Event) := o.rounds.flatMap Round.batches

/-- The results that have been handed to the check log. -/
def attempts (o : Office σ) : List Attempt := o.rounds.flatMap Round.attempts

/-- What has been answered; of the rows that were read it only counts whether the target is
watched. -/
def answers (o : Office σ) : List ErrandStage := o.errands.map ErrandStage.unlogged

/-- Two offices are the same but for their check logs: they watch the same, have handed over the
same, have made the same calls, and wait for the same. -/
structure Undisturbed (o o' : Office σ) : Prop where
  registry_eq : o.monitor.registry = o'.monitor.registry
  catalog_eq : o.monitor.store.catalog = o'.monitor.store.catalog
  batches_eq : o.batches = o'.batches
  results_eq : o.attempts.map Attempt.result = o'.attempts.map Attempt.result
  notices_eq : o.station.desk.notices = o'.station.desk.notices
  pending_eq : o.station.desk.pending = o'.station.desk.pending
  channel_eq : o.station.desk.channel = o'.station.desk.channel
  answers_eq : o.answers = o'.answers

/-- Two offices are the same but for their desks. -/
structure Unaffected (o : Office σ) (o' : Office τ) : Prop where
  monitor_eq : o.monitor = o'.monitor
  batches_eq : o.batches = o'.batches
  attempts_eq : o.attempts = o'.attempts
  errands_eq : o.errands = o'.errands

theorem batches_eq_unlogged (o : Office σ) :
    o.batches = (o.rounds.map Round.unlogged).flatMap Round.batches := by
  rw [List.flatMap_map]
  rfl

theorem results_eq_unlogged (o : Office σ) : o.attempts.map Attempt.result =
    (o.rounds.map Round.unlogged).flatMap fun r => r.attempts.map Attempt.result := by
  rw [attempts, List.map_flatMap, List.flatMap_map]
  refine List.flatMap_congr fun r _ => ?_
  rw [Round.unlogged, List.map_map]
  rfl

theorem undisturbed_of_unlogged {o o' : Office σ} (h : o.unlogged = o'.unlogged) :
    o.Undisturbed o' := by
  obtain ⟨hregistry, hcatalog⟩ := Monitor.unlogged_eq_iff.mp (monitor_of_unlogged h)
  obtain ⟨hround, hdesk, herrands, hpast, -⟩ := unlogged_eq_iff.mp h
  have hrounds : o.rounds.map Round.unlogged = o'.rounds.map Round.unlogged := by
    rw [rounds, rounds, List.map_append, List.map_append, hpast, List.map_singleton, hround,
      List.map_singleton]
  refine ⟨hregistry, hcatalog, ?_, ?_, by rw [hdesk], by rw [hdesk], by rw [hdesk], herrands⟩
  · rw [batches_eq_unlogged, hrounds, ← batches_eq_unlogged]
  · rw [results_eq_unlogged, hrounds, ← results_eq_unlogged]

theorem unaffected_of_deskless {o : Office σ} {o' : Office τ} (h : o.deskless = o'.deskless) :
    o.Unaffected o' where
  monitor_eq := congrArg Office.monitor h
  batches_eq := congrArg Office.batches h
  attempts_eq := congrArg Office.attempts h
  errands_eq := congrArg Office.errands h

/-- **Failures of the check log and of the channel disturb nothing else.** Two runs of an office
that differ only in whether the check log can be written and read are the same after every step, but
for the log itself; and so are two runs with any two channels, but for what is told. -/
theorem undisturbed_run (settings : OfficeSettings) (store : Store) :
    (∀ (ch : Channel σ) (channel : σ) (moves moves' : List OfficeMove),
      moves.map OfficeMove.unlogged = moves'.map OfficeMove.unlogged → ∀ n,
        Option.Rel Undisturbed (run? settings ch store channel (moves.take n))
          (run? settings ch store channel (moves'.take n))) ∧
    ∀ (ch : Channel σ) (channel : σ) (ch' : Channel τ) (channel' : τ) (moves : List OfficeMove) (n),
      Option.Rel Unaffected (run? settings ch store channel (moves.take n))
        (run? settings ch' store channel' (moves.take n)) := by
  refine ⟨fun ch channel moves moves' hmoves n => ?_, fun ch channel ch' channel' moves n => ?_⟩
  · refine rel_of_map_eq undisturbed_of_unlogged (runFrom?_congr rfl ?_)
    rw [List.map_take, List.map_take, hmoves]
  · have hfresh : (fresh store channel).deskless = (fresh store channel').deskless := rfl
    exact rel_of_map_eq unaffected_of_deskless (runFrom?_deskless hfresh _)

/-- A target goes down while another one is written into the catalog, and then the rows of the first
are read. Either the check log works all the time or never, and either everything is delivered or
nothing. -/
theorem undisturbed_run_failing :
    let settings : OfficeSettings := ⟨.ofSeconds 30, 0, 100⟩
    let store : Store := ⟨⟨[⟨"web", "a", 80, true⟩]⟩, {}⟩
    let within (a : RoundMove) : OfficeMove := .within (.within a)
    let moves (ok : Bool) : List OfficeMove :=
      [within (.listed true), within .adopted, within .read, within .launched,
       within (.returned 0 true (.atMillis 0)), within (.recorded 0 ok), within (.collected 0),
       within .handed, .within .begun, within (.listed true), .begun (.upsert "db" "a" 5432),
       within .adopted, within .read, .written 0 (.ok ()), within .launched,
       within (.returned 0 false (.atMillis 5)), .listed 0 true, within (.recorded 0 ok),
       .adopted 0, within (.collected 0), within .handed, .begun (.logs "web" 0 0),
       .read 1 (.atMillis 9) ok]
    let run (script : Script) (ok : Bool) (n : Nat) : Option (Office Script) :=
      run? settings Script.channel store script ((moves ok).take n)
    (∀ n, Option.Rel Undisturbed (run {} true n) (run {} false n)) ∧
      (∀ n, Option.Rel Unaffected (run {} true n) (run { sends := [.lost] } true n)) ∧
      (run {} true 23).map (fun o => (o.batches.map (List.map Event.target),
        o.monitor.store.log.checks.length, o.station.desk.pending.singles.names)) =
          some ([[], ["web"]], 2, ["web"]) ∧
      (run {} false 23).map (fun o => o.monitor.store.log.checks.length) = some 0 ∧
      (run { sends := [.lost] } true 23).map (fun o => o.station.desk.pending.singles.names) =
        some [] := by
  intro settings store within moves run
  have hmoves : (moves true).map OfficeMove.unlogged = (moves false).map OfficeMove.unlogged := by
    decide
  refine ⟨?_, ?_, by decide +kernel, by decide +kernel, by decide +kernel⟩
  · exact (@undisturbed_run Script Script settings store).1 Script.channel {} _ _ hmoves
  · exact (undisturbed_run settings store).2 Script.channel {} Script.channel { sends := [.lost] } _

end Office

end Uptime

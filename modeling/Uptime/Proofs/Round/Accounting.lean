import Uptime.Proofs.Round.Progress

/-!
# The account of a round

However the steps of a round are interleaved with each other and with changes by others, whichever
probes die and whichever results cannot be recorded, the round accounts for every probe: it ends
once; it is recorded and told about if its result was applied, and not at all otherwise; and the
events are handed over in one batch after the last probe.

## Main definitions

* `ProbeEnd`, `Round.ends`: how the probes of a round end.
* `ProbeEnd.Fits`: the end of a probe is that of its registry.
* `Round.Gains`: what comes to a round by the ends of some probes.
* `Round.Accounted`: the account of a round.

## Main results

* `Round.Step.gains`, `Round.gains_run`: every step, and so every round, gains what its probes
  bring.
* `Round.Step.fits`: a result is applied exactly if its target is registered.
* `Round.accounted_run`: every round is accounted for.
-/

namespace Uptime

/-- How a probe ends. -/
inductive ProbeEnd
  /-- It dies. -/
  | died (id : Identity)
  /-- It returns, and the registry answers with a transition or ignores it. -/
  | returned (id : Identity) (up : Bool) (now : Instant) (transition : Option Transition)
  deriving DecidableEq, Repr

namespace ProbeEnd

/-- What was probed. -/
def identity : ProbeEnd → Identity
  | died id => id
  | returned id .. => id

/-- The result that is to be recorded. -/
def result? : ProbeEnd → Option CheckResult
  | died _ => none
  | returned id up now transition => transition.map fun t => ⟨id, up, t.reason, now⟩

/-- The event that is to be told. -/
def event? : ProbeEnd → Option Event
  | died _ => none
  | returned _ _ _ transition => transition.bind Transition.event

/-- A probe ends between two states of a round. Its result is applied if its target is still
registered with the name, address and port that were probed, and otherwise nothing happens. -/
inductive Fits (r r' : Round) : ProbeEnd → Prop
  /-- It dies. -/
  | died {id : Identity} (hmonitor : r'.monitor = r.monitor) : Fits r r' (.died id)
  /-- Its target is no longer registered. -/
  | discarded {id : Identity} {up : Bool} {now : Instant}
      (hid : id ∉ r.monitor.registry.identities) (hmonitor : r'.monitor = r.monitor) :
      Fits r r' (.returned id up now none)
  /-- Its target is registered. -/
  | applied {id : Identity} {up : Bool} {now : Instant} {transition : Transition}
      (hid : id ∈ r.monitor.registry.identities)
      (happly : r.monitor.registry.apply id up now = (r'.monitor.registry, some transition))
      (hstore : r'.monitor.store = r.monitor.store) : Fits r r' (.returned id up now transition)

end ProbeEnd

namespace Round

/-- The probe that ends by a move. -/
def end? (r : Round) : RoundMove → Option ProbeEnd
  | .died i => r.tasks[i]?.map fun t => .died t.identity
  | .returned i up now => r.tasks[i]?.map fun t =>
      .returned t.identity up now (r.monitor.registry.apply t.identity up now).2
  | _ => none

/-- The ends of probes during some moves, in order. -/
def ends (configuredWorkers : Nat) : Round → List RoundMove → List ProbeEnd
  | _, [] => []
  | r, a :: moves =>
    match r.step? configuredWorkers a with
    | none => []
    | some r' => (r.end? a).toList ++ ends configuredWorkers r' moves

/-! ### What comes to a round -/

/-- The target of a probe that has ended. -/
def endedTarget? (t : ProbeTask) : Option Identity :=
  if t.stage = .running then none else some t.identity

/-- The targets of the probes that have ended. -/
def ended (r : Round) : List Identity := r.tasks.filterMap endedTarget?

/-- The results that were applied: those that were handed to the check log and those that will
be. -/
def results (r : Round) : List CheckResult :=
  r.attempts.map Attempt.result ++ r.tasks.filterMap fun t => t.stage.result?

/-- The events that were raised: those that were collected and those that will be. -/
def news (r : Round) : List Event := r.events ++ r.tasks.filterMap fun t => t.stage.event?

/-- Between two states of a round some probes end, and all that comes of them is gained. -/
structure Gains (r r' : Round) (es : List ProbeEnd) : Prop where
  ended_perm : r'.ended.Perm (r.ended ++ es.map ProbeEnd.identity)
  results_perm : r'.results.Perm (r.results ++ es.filterMap ProbeEnd.result?)
  news_perm : r'.news.Perm (r.news ++ es.filterMap ProbeEnd.event?)

section

variable {workers : Nat} {r r' r'' : Round} {a : RoundMove}

theorem Gains.refl (r : Round) : Gains r r [] :=
  ⟨by simp, by simp, by simp⟩

theorem Gains.trans {es fs : List ProbeEnd} (h : Gains r r' es) (h' : Gains r' r'' fs) :
    Gains r r'' (es ++ fs) where
  ended_perm := by
    rw [List.map_append, ← List.append_assoc]
    exact h'.ended_perm.trans (h.ended_perm.append_right _)
  results_perm := by
    rw [List.filterMap_append, ← List.append_assoc]
    exact h'.results_perm.trans (h.results_perm.append_right _)
  news_perm := by
    rw [List.filterMap_append, ← List.append_assoc]
    exact h'.news_perm.trans (h.news_perm.append_right _)

/-- An entry of a list makes way for another, and what it loses is kept elsewhere. -/
private theorem perm_append_filterMap_set {α β : Type} [DecidableEq β] {f : α → Option β}
    {xs : List α} {i : Nat} {x y : α} (h : xs[i]? = some x) (kept kept' gained : List β)
    (hkept : (kept' ++ (f y).toList).Perm (kept ++ (f x).toList ++ gained)) :
    (kept' ++ (xs.set i y).filterMap f).Perm (kept ++ xs.filterMap f ++ gained) := by
  refine List.perm_iff_count.mpr fun b => ?_
  have hset := (perm_filterMap_set (f := f) h y).count_eq b
  have hkept := hkept.count_eq b
  simp only [List.count_append] at hset hkept ⊢
  omega

/-- A step by which one probe comes to another stage. -/
private theorem gains_of_set {i : Nat} {t u : ProbeTask} (htask : r.tasks[i]? = some t)
    (htasks : r'.tasks = r.tasks.set i u) {es : List ProbeEnd}
    (hended : ((endedTarget? u).toList).Perm
      ((endedTarget? t).toList ++ es.map ProbeEnd.identity))
    (hresults : (r'.attempts.map Attempt.result ++ u.stage.result?.toList).Perm
      (r.attempts.map Attempt.result ++ t.stage.result?.toList ++ es.filterMap ProbeEnd.result?))
    (hnews : (r'.events ++ u.stage.event?.toList).Perm
      (r.events ++ t.stage.event?.toList ++ es.filterMap ProbeEnd.event?)) : Gains r r' es where
  ended_perm := by
    rw [ended, ended, htasks]
    exact perm_append_filterMap_set htask [] [] _ hended
  results_perm := by
    rw [results, results, htasks]
    exact perm_append_filterMap_set htask _ _ _ hresults
  news_perm := by
    rw [news, news, htasks]
    exact perm_append_filterMap_set htask _ _ _ hnews

/-- A step by which no probe ends and nothing changes that counts. -/
private theorem gains_of_eq (htasks : r'.tasks = r.tasks) (hattempts : r'.attempts = r.attempts)
    (hevents : r'.events = r.events) : Gains r r' [] where
  ended_perm := by simp [ended, htasks]
  results_perm := by simp [results, htasks, hattempts]
  news_perm := by simp [news, htasks, hevents]

/-- **What a step gains** is what the probe brings that ends by it. -/
theorem Step.gains (h : Step workers r a r') : Gains r r' (r.end? a).toList := by
  cases h with
  | listed hlisting succeeds => exact gains_of_eq rfl rfl rfl
  | adopted hadopting => exact gains_of_eq rfl rfl rfl
  | read hreading => exact gains_of_eq rfl rfl rfl
  | launched hprobing hbusy =>
    -- it has not ended yet
    exact ⟨by simp [end?, ended, endedTarget?],
      by simp [end?, results, ProbeStage.result?], by simp [end?, news, ProbeStage.event?]⟩
  | @died i id htask =>
    have hend : r.end? (.died i) = some (.died id) := by simp [end?, htask]
    rw [hend]
    exact gains_of_set htask rfl (.refl _)
      (by simp [ProbeStage.result?, ProbeEnd.result?, List.filterMap_cons])
      (by simp [ProbeStage.event?, ProbeEnd.event?, List.filterMap_cons])
  | @discarded i id up now htask happly =>
    have hend : r.end? (.returned i up now) = some (.returned id up now none) := by
      simp [end?, htask, happly]
    rw [hend]
    exact gains_of_set htask rfl (.refl _)
      (by simp [ProbeStage.result?, ProbeEnd.result?, List.filterMap_cons])
      (by simp [ProbeStage.event?, ProbeEnd.event?, List.filterMap_cons])
  | @applied i id up now transition htask happly =>
    have hend : r.end? (.returned i up now) = some (.returned id up now transition) := by
      simp [end?, htask, happly]
    rw [hend]
    refine gains_of_set htask rfl (.refl _) ?_ ?_
    · simp [ProbeStage.result?, ProbeEnd.result?]
    · cases hevent : transition.event <;> simp [ProbeStage.event?, ProbeEnd.event?, hevent]
  | recorded htask succeeds =>
    exact gains_of_set htask rfl (.refl _) (by simp [ProbeStage.result?, end?])
      (by simp [ProbeStage.event?, end?])
  | collected hprobing htask =>
    exact gains_of_set htask rfl (.refl _) (by simp [ProbeStage.result?, end?])
      (by simp [ProbeStage.event?, end?])
  | handed hprobing hcollected => exact gains_of_eq rfl rfl rfl
  | cancelled hprobing => exact gains_of_eq rfl rfl rfl
  | stored store => exact gains_of_eq rfl rfl rfl
  | replaced definitions => exact gains_of_eq rfl rfl rfl

/-- **What a round gains** is what its probes bring. -/
theorem gains_run {moves : List RoundMove} (h : runFrom? workers r moves = some r') :
    Gains r r' (ends workers r moves) := by
  induction moves generalizing r with
  | nil =>
    cases h
    exact .refl _
  | cons a moves ih =>
    obtain ⟨q, hq, hrest⟩ := Option.bind_eq_some_iff.mp h
    rw [ends, hq]
    exact (Step.of_step? hq).gains.trans (ih hrest)

/-! ### How a probe ends -/

/-- **A result is applied exactly if its target is registered**, and what is ignored leaves no
trace. -/
theorem Step.fits (h : Step workers r a r') (horder : r.Orderly) {e : ProbeEnd}
    (he : r.end? a = some e) : e.Fits r r' := by
  cases h with
  | died htask =>
    rw [end?, htask] at he
    cases he
    exact .died rfl
  | discarded htask happly =>
    rw [end?, htask, Option.map_some, happly] at he
    cases he
    have hid := mt (Registry.isSome_apply_iff horder.indexed _ _ _).mpr (by rw [happly]; decide)
    refine .discarded hid ?_
    rw [Registry.apply_of_notMem horder.indexed hid]
    rfl
  | applied htask happly =>
    rw [end?, htask, Option.map_some, happly] at he
    cases he
    have hid := (Registry.isSome_apply_iff horder.indexed _ _ _).mp (by rw [happly]; rfl)
    exact .applied hid (by rw [← happly]) rfl
  | _ => cases he

end

/-! ### The account -/

/-- The account of the round `r` of the monitor `m` after some moves. -/
structure Accounted (configuredWorkers : Nat) (m : Monitor) (moves : List RoundMove) (r : Round) :
    Prop where
  /-- Each probe ends by a move, and its result is applied or ignored as it should be. -/
  fits : ∀ before a after, moves = before ++ a :: after → ∃ q q',
    run? configuredWorkers m before = some q ∧ q.step? configuredWorkers a = some q' ∧
      ∀ e, q.end? a = some e → e.Fits q q'
  /-- The probes are launched in the order in which the targets have been read, -/
  launched_prefix : ∀ before after q, moves = before ++ .read :: after →
    run? configuredWorkers m before = some q → r.launched <+: q.monitor.registry.identities
  /-- for each name there is one at most, -/
  nodup_launched : (r.launched.map Identity.name).Nodup
  /-- and when the round is over each of them has ended once. -/
  ends_perm : r.stage = .finished →
    ((ends configuredWorkers { monitor := m } moves).map ProbeEnd.identity).Perm r.launched
  /-- Each result that was applied has been handed to the check log once, and nothing else has. -/
  attempts_perm : r.stage = .finished → (r.attempts.map Attempt.result).Perm
    ((ends configuredWorkers { monitor := m } moves).filterMap ProbeEnd.result?)
  /-- Each event that was raised has been collected once, whether or not its result was recorded. -/
  events_perm : r.stage = .finished →
    r.events.Perm ((ends configuredWorkers { monitor := m } moves).filterMap ProbeEnd.event?)
  nodup_targets : (r.events.map Event.target).Nodup
  /-- The events are handed over when the round is over, in one batch, -/
  batches_eq : r.batches = if r.stage = .finished then [r.events] else []
  /-- and by then every probe that was launched has ended. -/
  collected : r.stage = .finished → ∀ t ∈ r.tasks, t.stage = .collected
  /-- It comes to that: a round that is not over can take a step, -/
  progress : r.stage ≠ .finished → ∃ a r', a.isOwn = true ∧ r.step? configuredWorkers a = some r'
  /-- and takes a few of them at most. -/
  bounded : moves.countP RoundMove.isOwn ≤ 4 + 4 * r.launched.length

section

variable {workers : Nat} {m : Monitor} {r r' : Round} {a : RoundMove} {moves : List RoundMove}

/-- The targets are read once. -/
theorem Step.not_isEarly (h : Step workers r a r') (hstage : r.stage.isEarly = false) :
    r'.stage.isEarly = false ∧ a ≠ .read := by
  cases h with
  | listed hlisting succeeds => simp [hlisting, RoundStage.isEarly] at hstage
  | adopted hadopting => simp [hadopting, RoundStage.isEarly] at hstage
  | read hreading => simp [hreading, RoundStage.isEarly] at hstage
  | launched hprobing hbusy => exact ⟨rfl, by simp⟩
  | handed hprobing hcollected => exact ⟨rfl, by simp⟩
  | cancelled hprobing => exact ⟨rfl, by simp⟩
  | _ => exact ⟨hstage, by simp⟩

/-- What is launched is among the targets that were read. -/
theorem launched_prefix_of_run {ids : List Identity} (hstage : r.stage.isEarly = false)
    (hids : r.launched ++ r.waiting <+: ids) (h : runFrom? workers r moves = some r') :
    r'.launched <+: ids := by
  have hkept := runFrom?_induction
    (P := fun q => q.stage.isEarly = false ∧ q.launched ++ q.waiting <+: ids) ⟨hstage, hids⟩
    (fun {q q' a} hq hstep => by
      obtain ⟨hstage', ha⟩ := hstep.not_isEarly hq.1
      exact ⟨hstage', (hstep.launched_append_waiting ha).trans hq.2⟩) h
  exact (List.prefix_append _ _).trans hkept.2

theorem news_of_collected (h : ∀ t ∈ r.tasks, t.stage = .collected) : r.news = r.events := by
  rw [news, List.filterMap_eq_nil_iff.mpr, List.append_nil]
  exact fun t ht => by rw [h t ht]; rfl

/-- When a round is over nothing is left to come. -/
theorem Concluded.gained (h : r.Concluded) (hfinished : r.stage = .finished) :
    r.ended = r.launched ∧ r.results = r.attempts.map Attempt.result ∧ r.news = r.events := by
  have hcollected := h.collected hfinished
  refine ⟨?_, ?_, news_of_collected hcollected⟩
  · rw [ended, launched, ← List.filterMap_eq_map]
    exact List.filterMap_congr fun t ht => by simp [endedTarget?, hcollected t ht]
  · rw [results, List.filterMap_eq_nil_iff.mpr, List.append_nil]
    exact fun t ht => by rw [hcollected t ht]; rfl

/-- **What a round that is over has gained**: every probe has ended once, and the results and the
events that came of that are all there is. -/
theorem gained_of_run (h : run? workers m moves = some r) (hfinished : r.stage = .finished) :
    ((ends workers { monitor := m } moves).map ProbeEnd.identity).Perm r.launched ∧
      (r.attempts.map Attempt.result).Perm
        ((ends workers { monitor := m } moves).filterMap ProbeEnd.result?) ∧
      r.events.Perm ((ends workers { monitor := m } moves).filterMap ProbeEnd.event?) := by
  have hgains := gains_run h
  obtain ⟨hended, hresults, hnews⟩ := (concluded_run h).gained hfinished
  rw [← hended, ← hresults, ← hnews]
  exact ⟨hgains.ended_perm.symm, hgains.results_perm, hgains.news_perm⟩

end

/-- **Every round is accounted for.** -/
theorem accounted_run {workers : Nat} {calls : List RegistryCall} {store : Store}
    {moves : List RoundMove} {r : Round}
    (h : run? workers ⟨Registry.after calls, store⟩ moves = some r) :
    Accounted workers ⟨Registry.after calls, store⟩ moves r := by
  have horder := orderly_run h
  have hconcluded := concluded_run h
  have hgains := gains_run h
  exact
    { fits := by
        rintro before a after rfl
        obtain ⟨q, q', hq, hstep, -⟩ := runFrom?_append_cons.mp h
        exact ⟨q, q', hq, hstep, fun e he => (Step.of_step? hstep).fits (orderly_run hq) he⟩
      launched_prefix := by
        rintro before after q rfl hq
        obtain ⟨q₁, q', hq₁, hstep, hrest⟩ := runFrom?_append_cons.mp h
        obtain rfl := Option.some.inj (hq.symm.trans hq₁)
        cases Step.of_step? hstep with
        | read hreading =>
          obtain ⟨htasks, -⟩ := (orderly_run hq).early (by rw [hreading]; rfl)
          exact launched_prefix_of_run rfl (by simp [launched, waiting, htasks]) hrest
      nodup_launched :=
        horder.nodup_launched.sublist ((List.sublist_append_left _ _).map _)
      ends_perm := fun hfinished => by
        rw [← (hconcluded.gained hfinished).1]
        exact hgains.ended_perm.symm
      attempts_perm := fun hfinished => by
        rw [← (hconcluded.gained hfinished).2.1]
        exact hgains.results_perm
      events_perm := fun hfinished => by
        rw [← (hconcluded.gained hfinished).2.2]
        exact hgains.news_perm
      nodup_targets := horder.nodup_names.sublist (List.sublist_append_right _ _)
      batches_eq := hconcluded.batches_eq
      collected := hconcluded.collected
      progress := fun hfinished => horder.exists_step? hfinished workers
      bounded := countP_isOwn_le h }

/-- Three targets are probed by two workers. The catalog cannot be listed; the probe of the first
target dies, the second one is moved to another address while it is probed, and the result of the
third, which comes back, cannot be recorded. Its event is told all the same. -/
theorem accounted_run_interleaved :
    let calls : List RegistryCall :=
      [.replace [⟨"web", "a", 80, true⟩, ⟨"db", "a", 5432, true⟩, ⟨"mail", "a", 25, true⟩],
       .apply ⟨"web", "a", 80⟩ false (.atMillis 0)]
    let moves : List RoundMove :=
      [.listed false, .adopted, .stored {}, .read, .launched, .launched, .died 0, .launched,
       .replaced [⟨"web", "a", 80, true⟩, ⟨"mail", "b", 25, true⟩], .returned 2 true (.atMillis 7),
       .returned 1 true (.atMillis 8), .recorded 2 false, .collected 2, .collected 0, .collected 1,
       .handed]
    ∃ r, run? 2 ⟨Registry.after calls, {}⟩ moves = some r ∧
      r.launched.map Identity.name = ["db", "mail", "web"] ∧
      r.attempts = [⟨⟨⟨"web", "a", 80⟩, true, .change, .atMillis 7⟩, false⟩] ∧
      r.batches = [[⟨.recovered, "web", "a", 80, .stateChange, .atMillis 7⟩]] ∧
      Accounted 2 ⟨Registry.after calls, {}⟩ moves r := by
  intro calls moves
  have hrun : (run? 2 ⟨Registry.after calls, {}⟩ moves).map
      (fun r => (r.launched.map Identity.name, r.attempts, r.batches)) =
      some (["db", "mail", "web"], [⟨⟨⟨"web", "a", 80⟩, true, .change, .atMillis 7⟩, false⟩],
        [[⟨.recovered, "web", "a", 80, .stateChange, .atMillis 7⟩]]) := by decide +kernel
  obtain ⟨r, hr, heq⟩ := Option.map_eq_some_iff.mp hrun
  obtain ⟨hlaunched, hrest⟩ := Prod.mk.inj heq
  obtain ⟨hattempts, hbatches⟩ := Prod.mk.inj hrest
  exact ⟨r, hr, hlaunched, hattempts, hbatches, accounted_run hr⟩

end Round

end Uptime

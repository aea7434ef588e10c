import Uptime.Proofs.Alert.LastWord
import Uptime.Proofs.Registry.News
import Uptime.Proofs.Round.Accounting

/-!
# A station

A station is a monitor that runs one round after the other, with a desk that tells the events of
each. During the rounds and between them others may change the catalog and bring the registry up to
date.

## Main definitions

* `Station`, `Station.step?`, `Station.run?`: a station, what happens next, and what has happened so
  far.
* `Station.story`: the events that have been told and those that will be, in order.
* `Station.Lawful`: what holds of a station at any time.

## Main results

* `Station.lawful_run`: it does.
* `Station.lastEvent?_story_step`: the story goes on with the events that the registry raises.
-/

namespace Uptime

variable {σ : Type}

/-- A monitor in its rounds, with the desk that tells their events. -/
structure Station (σ : Type) where
  /-- The round. -/
  round : Round
  /-- The desk. -/
  desk : Desk σ

/-- What may happen next. -/
inductive StationMove
  /-- The next round begins. -/
  | begun
  /-- There is a move in the round, or by others between two rounds. -/
  | within (a : RoundMove)
  deriving DecidableEq, Repr

/-! ### The news of a round -/

namespace Round

/-- The event that a move raises. -/
def raised? (r : Round) (a : RoundMove) : Option Event :=
  (r.call? a).bind r.monitor.registry.raised?

/-- The events that have been raised and are still to be handed over. -/
def untold (r : Round) : List Event := if r.stage = .finished then [] else r.news

section

variable {workers : Nat} {r r' : Round} {a : RoundMove}

/-- What comes of the end of a probe is what the registry raises. -/
theorem bind_end? (r : Round) (a : RoundMove) : (r.end? a).bind ProbeEnd.event? = r.raised? a := by
  cases a with
  | returned i up now =>
    rw [end?, raised?, call?]
    cases r.tasks[i]? <;> rfl
  | died i =>
    rw [end?]
    cases r.tasks[i]? <;> rfl
  | adopted =>
    rw [raised?, call?]
    split
    · next definitions _ => cases definitions <;> rfl
    · rfl
  | _ => rfl

private theorem sublist_filterMap_nameOf? (ts : List ProbeTask) :
    ((ts.filterMap fun t => t.stage.event?).map Event.target).Sublist (ts.filterMap nameOf?) := by
  induction ts with
  | nil => exact .slnil
  | cons t ts ih =>
    obtain ⟨id, stage⟩ := t
    cases hevent : stage.event? with
    | none =>
      rw [List.filterMap_cons_none (by exact hevent)]
      exact ih.trans ((List.sublist_cons_self _ _).filterMap _)
    | some e =>
      have hname : nameOf? ⟨id, stage⟩ = some e.target := by
        cases stage with
        | running => cases hevent
        | _ => exact congrArg (Option.map Event.target) hevent
      rw [List.filterMap_cons_some (by exact hevent), List.filterMap_cons_some hname, List.map_cons]
      exact ih.cons_cons _

/-- **No two events of a round are about one target**, whether or not they have been collected. -/
theorem Orderly.nodup_news (h : r.Orderly) : (r.news.map Event.target).Nodup := by
  have hsub : ((r.tasks.filterMap fun t => t.stage.event?).map Event.target ++
      r.events.map Event.target).Sublist r.names := by
    rw [names, List.append_assoc]
    exact ((sublist_filterMap_nameOf? r.tasks).append (.refl _)).trans
      (List.sublist_append_right _ _)
  rw [news, List.map_append]
  exact (List.perm_append_comm.nodup_iff).mp (h.nodup_names.sublist hsub)

/-- Nothing is raised when a round is over. -/
theorem Concluded.raised?_eq_none (h : r.Concluded) (hfinished : r.stage = .finished)
    (hstep : Step workers r a r') : r.raised? a = none := by
  rw [← bind_end?]
  have hrunning : ∀ {i : Nat} {id : Identity}, r.tasks[i]? ≠ some ⟨id, .running⟩ := by
    intro i id htask
    have hcollected := h.collected hfinished _ (List.mem_of_getElem? htask)
    cases hcollected
  cases hstep with
  | died htask => exact absurd htask hrunning
  | discarded htask happly => exact absurd htask hrunning
  | applied htask happly => exact absurd htask hrunning
  | _ => rfl

theorem Step.mem_news_iff (h : Step workers r a r') {e : Event} :
    e ∈ r'.news ↔ e ∈ r.news ∨ r.raised? a = some e := by
  rw [h.gains.news_perm.mem_iff, List.mem_append, ← bind_end?]
  simp [Option.bind_eq_some_iff]

/-- **The news goes on with what is raised.** -/
theorem Step.lastEvent?_news (hr : r.Orderly) (hr' : r'.Orderly) (h : Step workers r a r')
    (name : String) :
    lastEvent? r'.news name =
      ((r.raised? a).filter fun e => e.target = name).or (lastEvent? r.news name) := by
  cases hraised : (r.raised? a).filter fun e => e.target = name with
  | some e =>
    obtain ⟨he, hname⟩ := Option.filter_eq_some_iff.mp hraised
    exact (lastEvent?_eq_some_iff hr'.nodup_news).mpr
      ⟨h.mem_news_iff.mpr (.inr he), by simpa using hname⟩
  | none =>
    refine Option.ext fun e => ?_
    rw [Option.none_or, lastEvent?_eq_some_iff hr.nodup_news, lastEvent?_eq_some_iff hr'.nodup_news,
      h.mem_news_iff]
    refine and_congr_left fun hname => or_iff_left fun he => ?_
    rw [he] at hraised
    simp [hname] at hraised

end

end Round

namespace Station

/-- The registry of a station. -/
abbrev registry (s : Station σ) : Registry := s.round.monitor.registry

/-- A station with an empty registry, before its first round. -/
def fresh (store : Store) (channel : σ) : Station σ := ⟨{ monitor := { store } }, { channel }⟩

/-- The station after a move, unless it is not its turn. When a round hands over its events, they
are told. -/
def step? (ch : Channel σ) (window : Span) (configuredWorkers : Nat) (s : Station σ) :
    StationMove → Option (Station σ)
  | .begun =>
    if s.round.stage = .finished then some { s with round := { monitor := s.round.monitor } }
    else none
  | .within a =>
    (s.round.step? configuredWorkers a).map fun r =>
      ⟨r, if a = .handed then s.desk.take ch window s.round.events else s.desk⟩

/-- A fresh station after some moves, if each comes at its turn. -/
def run? (ch : Channel σ) (window : Span) (configuredWorkers : Nat) (store : Store) (channel : σ)
    (moves : List StationMove) : Option (Station σ) :=
  moves.foldlM (step? ch window configuredWorkers) (fresh store channel)

/-- The events that have been told, and those that will be when the round is over. -/
def story (s : Station σ) : List Event := s.desk.events ++ s.round.untold

/-- The event that a move raises. -/
def raised? (s : Station σ) : StationMove → Option Event
  | .begun => none
  | .within a => s.round.raised? a

/-- What holds of a station at any time. -/
structure Lawful (s : Station σ) : Prop where
  orderly : s.round.Orderly
  concluded : s.round.Concluded
  informed : s.desk.Informed

section

variable {ch : Channel σ} {window : Span} {workers : Nat} {s s' : Station σ} {b : StationMove}

theorem lawful_fresh (store : Store) (channel : σ) : (fresh store channel).Lawful where
  orderly := Round.orderly_begin [] store
  concluded := Round.concluded_begin _
  informed name e h := by cases h

/-- **What holds of a station is kept by every move.** -/
theorem Lawful.step (hs : s.Lawful) (h : s.step? ch window workers b = some s') : s'.Lawful := by
  cases b with
  | begun =>
    simp only [step?] at h
    split at h <;> cases h
    obtain ⟨calls, heq⟩ := hs.orderly.registry_eq
    refine ⟨?_, Round.concluded_begin _, hs.informed⟩
    have hbegin := Round.orderly_begin calls s.round.monitor.store
    rw [← heq] at hbegin
    exact hbegin
  | within a =>
    obtain ⟨r, hr, rfl⟩ := Option.map_eq_some_iff.mp h
    have hstep := Round.Step.of_step? hr
    refine ⟨hs.orderly.step hstep, hs.concluded.step hstep, ?_⟩
    split
    · exact hs.informed.take ch window
        (hs.orderly.nodup_names.sublist (List.sublist_append_right _ _))
    · exact hs.informed

/-- **The story goes on with what is raised**: that is the last event about its target from then on,
and all others stay as they are. -/
theorem Lawful.lastEvent?_story_step (hs : s.Lawful) (h : s.step? ch window workers b = some s')
    (name : String) :
    lastEvent? s'.story name =
      ((s.raised? b).filter fun e => e.target = name).or (lastEvent? s.story name) := by
  have hs' := hs.step h
  cases b with
  | begun =>
    simp only [step?] at h
    split at h <;> cases h
    next hfinished =>
    have huntold : Round.untold { monitor := s.round.monitor } = s.round.untold := by
      rw [Round.untold, Round.untold, if_pos hfinished]
      rfl
    rw [story, huntold]
    rfl
  | within a =>
    obtain ⟨r, hr, rfl⟩ := Option.map_eq_some_iff.mp h
    have hstep := Round.Step.of_step? hr
    by_cases ha : a = .handed
    · -- the events that were to be told are told
      subst ha
      cases hstep with
      | handed hprobing hcollected =>
        have huntold : s.round.untold = s.round.events := by
          rw [Round.untold, if_neg (by simp [hprobing]), Round.news_of_collected hcollected]
        rw [story, story, huntold]
        simp [Round.untold, Desk.take, raised?, Round.raised?, Round.call?]
    · rw [story, story, if_neg ha, raised?]
      by_cases hfinished : s.round.stage = .finished
      · have hfinished' := (hstep.stage_eq_finished_iff ha).mpr hfinished
        rw [hs.concluded.raised?_eq_none hfinished hstep, Round.untold, Round.untold,
          if_pos hfinished, if_pos hfinished']
        rfl
      · have hfinished' := mt (hstep.stage_eq_finished_iff ha).mp hfinished
        rw [Round.untold, Round.untold, if_neg hfinished, if_neg hfinished', lastEvent?_append,
          lastEvent?_append, ← Option.or_assoc]
        rw [Round.Step.lastEvent?_news hs.orderly hs'.orderly hstep]

/-! ### Runs -/

variable {store : Store} {channel : σ} {moves : List StationMove}

theorem run?_append_singleton :
    run? ch window workers store channel (moves ++ [b]) = some s' ↔
      ∃ s, run? ch window workers store channel moves = some s ∧
        s.step? ch window workers b = some s' := by
  rw [run?, List.foldlM_append, Option.bind_eq_bind, Option.bind_eq_some_iff]
  simp [run?]

/-- **A station is lawful at any time.** -/
theorem lawful_run (h : run? ch window workers store channel moves = some s) : s.Lawful := by
  induction moves using List.reverseRecOn generalizing s with
  | nil =>
    cases h
    exact lawful_fresh store channel
  | append_singleton moves b ih =>
    obtain ⟨q, hq, hstep⟩ := run?_append_singleton.mp h
    exact (ih hq).step hstep

end

end Station

end Uptime

import Uptime.Proofs.Episode
import Uptime.Proofs.Vigil.Heeded

/-!
# Cancelled runs

A run that is cancelled, at any time, comes to its end with the cycle that is in progress, or at
once if there is none. Its first cycle takes place even if it is cancelled beforehand; from then on
no cycle begins, and the cycle in progress launches no more than the one probe that was waiting for
a worker. What it has launched it brings to its end.

## Main definitions

* `RunPlan.Course`: the episodes of a run and the time at which it ends, in the form of a relation.
* `RunPlan.Heeded`: what holds of the episodes of a run that is cancelled.

## Main results

* `RunPlan.exists_course`: a run with enough cycles ends, and is a course.
* `RunPlan.Course.start_lt`, `RunPlan.Course.ended_eq`: which cycles begin, and when the run ends.
* `RunPlan.heeded_runUnder`: a run that is cancelled heeds it, whatever changes from cycle to cycle.
* `cancellation_heeded`: a cancellation is heeded at any time and between any two steps.
-/

namespace Uptime

theorem lt_of_turn_eq_cycle {c due now start : Nat}
    (h : turn (some c) due now = .cycle start) : start < c := by
  simp only [turn] at h
  split at h
  · cases h
  · next hnot =>
    rw [← Turn.cycle.inj h]
    exact Nat.lt_of_not_le hnot

namespace RunPlan

variable {p : RunPlan} {w : Circumstances} {m : Monitor} {k due start ended : Nat}
  {es : List Episode} {e : Episode}

/-- A run that is cancelled when a cycle ends is over. -/
theorem turn_afterCycle {finish : Nat} (h : p.stopAfter = some (k + 1)) :
    turn (p.afterCycle k finish).cancelledFrom due finish = .stop finish := by
  have hle : min finish (p.cancelledFrom.getD finish) ≤ finish := Nat.min_le_left _ _
  rw [afterCycle, if_pos h]
  simp only [turn]
  rw [if_pos (hle.trans (Nat.le_max_right _ _)), Nat.max_eq_right hle]

theorem afterCycle_of_ne {finish : Nat} (h : p.stopAfter ≠ some (k + 1)) :
    p.afterCycle k finish = p := if_neg h

/-- The cycle with the number `k` of a run under some circumstances. -/
def episodeUnder (p : RunPlan) (w : Circumstances) (k start : Nat) (m : Monitor) : Episode :=
  { p with latency := w.latency k }.episode k start (w.before k m)

/-- The episodes of a run under some circumstances, from the one with the number `k` on, and the
time at which it ends. -/
inductive Course (p : RunPlan) (w : Circumstances) :
    (k due start : Nat) → Monitor → List Episode → Nat → Prop
  /-- The run ends. -/
  | last {k due start ended : Nat} {m : Monitor}
      (hturn : turn (p.afterCycle k (p.episodeUnder w k start m).cycle.finish).cancelledFrom
        (nextDue p.interval due start) (p.episodeUnder w k start m).cycle.finish = .stop ended) :
      Course p w k due start m [p.episodeUnder w k start m] ended
  /-- It goes on. -/
  | next {k due start start' ended : Nat} {m : Monitor} {es : List Episode}
      (hstop : p.stopAfter ≠ some (k + 1))
      (hturn : turn p.cancelledFrom (nextDue p.interval due start)
        (p.episodeUnder w k start m).cycle.finish = .cycle start')
      (hrest : Course p w (k + 1) (nextDue p.interval due start) start'
        (p.episodeUnder w k start m).after es ended) :
      Course p w k due start m (p.episodeUnder w k start m :: es) ended

/-- So many cycles are enough for a run to end. -/
def Enough (p : RunPlan) (n k due : Nat) : Prop :=
  (∃ s, p.stopAfter = some (s + 1) ∧ k ≤ s ∧ s < k + n) ∨
    ∃ c, p.cancelledFrom = some c ∧ c < due + n * p.interval

theorem Enough.succ {n : Nat} (h : p.Enough (n + 1) k due) (hstop : p.stopAfter ≠ some (k + 1)) :
    p.Enough n (k + 1) (nextDue p.interval due start) := by
  rcases h with ⟨s, hs, hks, hlt⟩ | ⟨c, hc, hlt⟩
  · have hne : k ≠ s := fun heq => hstop (heq ▸ hs)
    exact .inl ⟨s, hs, by omega, by omega⟩
  · have hnext := add_le_nextDue p.interval due start
    rw [Nat.succ_mul] at hlt
    exact .inr ⟨c, hc, by omega⟩

/-- **A run with enough cycles ends**, and its cycles are those of a course. -/
theorem exists_course {n : Nat} (henough : p.Enough n k due)
    (hdue : ∀ c, p.cancelledFrom = some c → due ≤ c) :
    ∃ es ended, p.runUnderFrom w n k due start m = (es.map Episode.cycle, some ended) ∧
      p.Course w k due start m es ended := by
  induction n generalizing k due start m with
  | zero =>
    rcases henough with ⟨s, -, hks, hlt⟩ | ⟨c, hc, hlt⟩
    · omega
    · have := hdue c hc
      omega
  | succ n ih =>
    let e := p.episodeUnder w k start m
    have hcycle : { p with latency := w.latency k }.cycle k start (w.before k m) =
        (e.cycle, e.after) := rfl
    by_cases hstop : p.stopAfter = some (k + 1)
    · have hturn : turn (p.afterCycle k e.cycle.finish).cancelledFrom
          (nextDue p.interval due start) e.cycle.finish = .stop e.cycle.finish :=
        turn_afterCycle hstop
      refine ⟨[e], e.cycle.finish, ?_, .last hturn⟩
      simp [runUnderFrom, hcycle, hturn]
    · cases hturn : turn p.cancelledFrom (nextDue p.interval due start) e.cycle.finish with
      | stop time =>
        refine ⟨[e], time, ?_, .last ?_⟩
        · simp [runUnderFrom, hcycle, hturn, afterCycle_of_ne hstop]
        · rw [afterCycle_of_ne hstop]
          exact hturn
      | cycle start' =>
        have hnext : ∀ c, p.cancelledFrom = some c → nextDue p.interval due start ≤ c := by
          intro c hc
          have hlt := lt_of_turn_eq_cycle (hc ▸ hturn)
          exact ((le_of_turn_eq_cycle hturn).1.trans_lt hlt).le
        obtain ⟨es, ended, hrun, hcourse⟩ : ∃ es ended,
            p.runUnderFrom w n (k + 1) (nextDue p.interval due start) start' e.after =
              (es.map Episode.cycle, some ended) ∧
            p.Course w (k + 1) (nextDue p.interval due start) start' e.after es ended :=
          ih (henough.succ hstop) hnext
        refine ⟨e :: es, ended, ?_, .next hstop hturn hcourse⟩
        simp [runUnderFrom, hcycle, hturn, afterCycle_of_ne hstop, hrun]

/-! ### Courses -/

namespace Course

/-- The first episode of a course. -/
theorem head_eq (h : p.Course w k due start m es ended) :
    es[0]? = some (p.episodeUnder w k start m) := by
  cases h <;> rfl

/-- Every episode is that of a cycle. -/
theorem exists_eq (h : p.Course w k due start m es ended) {i : Nat} (he : es[i]? = some e) :
    ∃ start' m', e = p.episodeUnder w (k + i) start' m' := by
  induction h generalizing i with
  | @last k due start ended m hturn =>
    cases i with
    | zero => exact ⟨start, m, (Option.some.inj he).symm⟩
    | succ i => simp at he
  | @next k due start start' ended m es hstop hturn hrest ih =>
    cases i with
    | zero => exact ⟨start, m, (Option.some.inj he).symm⟩
    | succ i =>
      obtain ⟨start'', m', heq⟩ := ih (by simpa using he)
      exact ⟨start'', m', by rw [heq, Nat.succ_add_eq_add_succ]⟩

/-- Every episode begins with what others have made of the monitor since the one before. -/
theorem before_eq (h : p.Course w k due start m es ended) {i : Nat} {e' : Episode}
    (he : es[i]? = some e) (he' : es[i + 1]? = some e') :
    e'.before = w.before (k + i + 1) e.after := by
  induction h generalizing i with
  | last hturn => simp at he'
  | @next k due start start' ended m es hstop hturn hrest ih =>
    cases i with
    | zero =>
      obtain rfl := Option.some.inj he
      have hhead := hrest.head_eq.symm.trans (by simpa using he')
      rw [← Option.some.inj hhead]
      rfl
    | succ i =>
      rw [ih (by simpa using he) (by simpa using he'), Nat.succ_add_eq_add_succ]

/-- **No episode but the first begins after the cancellation.** -/
theorem start_lt (h : p.Course w k due start m es ended) {c : Nat}
    (hc : p.cancelledFrom = some c) {i : Nat} (he : es[i + 1]? = some e) : e.cycle.start < c := by
  induction h generalizing i with
  | last hturn => simp at he
  | @next k due start start' ended m es hstop hturn hrest ih =>
    cases i with
    | zero =>
      have hhead := hrest.head_eq.symm.trans (by simpa using he)
      rw [← Option.some.inj hhead]
      exact lt_of_turn_eq_cycle (hc ▸ hturn)
    | succ i => exact ih (by simpa using he)

/-- **How a course ends.** -/
theorem ended_eq (h : p.Course w k due start m es ended) {last : Episode}
    (hlast : es.getLast? = some last) :
    (p.stopAfter = some (k + es.length) ∧ ended = last.cycle.finish) ∨
      ∃ c, p.cancelledFrom = some c ∧ ended = max c last.cycle.finish ∧
        c ≤ max (dueTime p.interval due (es.map Episode.cycle)) last.cycle.finish := by
  induction h with
  | @last k due start ended m hturn =>
    obtain rfl := Option.some.inj hlast
    by_cases hstop : p.stopAfter = some (k + 1)
    · rw [turn_afterCycle hstop] at hturn
      exact .inl ⟨hstop, (Turn.stop.inj hturn).symm⟩
    · rw [afterCycle_of_ne hstop] at hturn
      right
      cases hc : p.cancelledFrom with
      | none => simp [turn, hc] at hturn
      | some c =>
        rw [hc] at hturn
        simp only [turn] at hturn
        split at hturn
        · next hle => exact ⟨c, rfl, (Turn.stop.inj hturn).symm, hle⟩
        · cases hturn
  | @next k due start start' ended m es hstop hturn hrest ih =>
    have hne : es ≠ [] := by
      rintro rfl
      cases hrest
    rw [List.getLast?_cons_of_ne_nil hne] at hlast
    rw [List.length_cons, ← Nat.succ_add_eq_add_succ]
    exact ih hlast

/-- A course is over when the last cycle that is wanted has ended. -/
theorem add_length_le (h : p.Course w k due start m es ended) {n : Nat}
    (hn : p.stopAfter = some (n + 1)) (hk : k ≤ n) : k + es.length ≤ n + 1 := by
  induction h with
  | last hturn => simpa using hk
  | @next k due start start' ended m es hstop hturn hrest ih =>
    have hne : k ≠ n := fun heq => hstop (heq ▸ hn)
    have hlength := ih (by omega)
    rw [List.length_cons]
    omega

end Course

/-! ### Runs that are cancelled -/

/-- What holds of the episodes of a run that is cancelled, and of the time at which it ends. -/
structure Heeded (p : RunPlan) (w : Circumstances) (m : Monitor) (es : List Episode)
    (ended : Nat) : Prop where
  /-- The first episode begins at once, even if the run is cancelled beforehand. -/
  first : ∃ e, es[0]? = some e ∧ e.cycle.start = 0 ∧ e.before = w.before 0 m
  before_eq : ∀ k e e', es[k]? = some e → es[k + 1]? = some e' →
    e'.before = w.before (k + 1) e.after
  /-- No other one begins once the run is cancelled, even if it is due. -/
  start_lt : ∀ c, p.cancelledFrom = some c → ∀ k e, es[k + 1]? = some e → e.cycle.start < c
  length_le : ∀ n, p.stopAfter = some (n + 1) → es.length ≤ n + 1
  /-- The run ends with its last episode if it is cancelled by then, and else when it is cancelled;
  no episode is left out that could have begun before. -/
  ended_eq : ∀ last, es.getLast? = some last →
    (p.stopAfter = some es.length ∧ ended = last.cycle.finish) ∨
      ∃ c, p.cancelledFrom = some c ∧ ended = max c last.cycle.finish ∧
        c ≤ max (dueTime p.interval 0 (es.map Episode.cycle)) last.cycle.finish
  /-- An episode that is cancelled launches one more probe at most. -/
  heeds : ∀ c, p.cancelledFrom = some c → ∀ (k : Nat) (e : Episode), es[k]? = some e →
    e.Heeds p.workers c
  /-- Every probe that is launched is brought to its end, and the others leave no trace. -/
  settled : ∀ k (e : Episode), es[k]? = some e → e.Settled { p with latency := w.latency k } k

theorem Course.heeded (h : p.Course w 0 0 0 m es ended) : p.Heeded w m es ended where
  first := ⟨_, h.head_eq, rfl, rfl⟩
  before_eq k e e' he he' := by
    have hbefore := h.before_eq he he'
    rwa [Nat.zero_add] at hbefore
  start_lt c hc k e he := h.start_lt hc he
  length_le n hn := by
    have hlength := h.add_length_le hn (Nat.zero_le n)
    rwa [Nat.zero_add] at hlength
  ended_eq last hlast := by
    have hended := h.ended_eq hlast
    rwa [Nat.zero_add] at hended
  heeds c hc k e he := by
    obtain ⟨start, m', rfl⟩ := h.exists_eq he
    exact heeds_episode { p with latency := w.latency (0 + k) } (0 + k) start _ hc
  settled k e he := by
    obtain ⟨start, m', rfl⟩ := h.exists_eq he
    rw [Nat.zero_add]
    exact settled_episode _ k start _

/-- A run that is cancelled has enough fuel. -/
theorem enough_of_fuel_le (hinterval : 0 < p.interval)
    (hcancelled : p.cancelledFrom ≠ none ∨ ∃ n, p.stopAfter = some (n + 1)) {n : Nat}
    (hn : p.fuel ≤ n) : p.Enough n 0 0 := by
  have htimed : ∀ c, p.cancelledFrom = some c → c / max 1 p.interval + 2 ≤ n →
      p.Enough n 0 0 := by
    intro c hc hle
    rw [Nat.max_eq_right hinterval] at hle
    have hlt := Nat.lt_mul_div_succ c hinterval
    have hmul : p.interval * (c / p.interval + 1) ≤ p.interval * n :=
      Nat.mul_le_mul_left _ (by omega)
    rw [Nat.mul_comm p.interval n] at hmul
    exact .inr ⟨c, hc, by omega⟩
  rw [fuel] at hn
  split at hn
  · next s hstop => exact .inl ⟨s, hstop, Nat.zero_le s, by omega⟩
  · next c hc _ => exact htimed c hc hn
  · next hnone hstop =>
    rcases hcancelled with hsome | ⟨s, hs⟩
    · exact absurd hnone hsome
    · exact absurd hs (hstop s)

/-- **A run that is cancelled heeds it**, whenever that is. -/
theorem heeded_runUnder (hinterval : 0 < p.interval)
    (hcancelled : p.cancelledFrom ≠ none ∨ ∃ n, p.stopAfter = some (n + 1)) (w : Circumstances)
    {n : Nat} (hn : p.fuel ≤ n) (m : Monitor) : ∃ (es : List Episode) (ended : Nat),
      p.runUnder w n m = (es.map Episode.cycle, some ended) ∧ p.Heeded w m es ended := by
  obtain ⟨es, ended, hrun, hcourse⟩ : ∃ es ended,
      p.runUnderFrom w n 0 0 0 m = (es.map Episode.cycle, some ended) ∧
        p.Course w 0 0 0 m es ended :=
    exists_course (enough_of_fuel_le hinterval hcancelled hn) fun c _ => Nat.zero_le c
  exact ⟨es, ended, hrun, hcourse.heeded⟩

end RunPlan

/-- **A cancellation is heeded**, at any time of a run and between any two steps of a vigil. -/
theorem cancellation_heeded :
    (∀ (p : RunPlan) (m : Monitor), 0 < p.interval →
      (p.cancelledFrom ≠ none ∨ ∃ n, p.stopAfter = some (n + 1)) →
        (∃ es ended, p.run m = (es.map Episode.cycle, some ended) ∧
          p.Heeded p.steady m es ended) ∧
        ∀ (w : Circumstances) (n : Nat), p.fuel ≤ n → ∃ es ended,
          p.runUnder w n m = (es.map Episode.cycle, some ended) ∧ p.Heeded w m es ended) ∧
    ∀ (workers : Nat) (m : Monitor) (moves : List VigilMove) (v : Vigil), m.Reachable →
      Vigil.run? workers m moves = some v → v.Heeded workers m moves := by
  refine ⟨fun p m hinterval hcancelled => ⟨?_, fun w n hn => ?_⟩, fun workers m moves v hm h => ?_⟩
  · rw [RunPlan.run, RunPlan.runFrom_eq_runUnderFrom]
    exact RunPlan.heeded_runUnder hinterval hcancelled p.steady le_rfl m
  · exact RunPlan.heeded_runUnder hinterval hcancelled w hn m
  · exact Vigil.heeded_run hm h

/-- There is one worker for three targets. A run that is cancelled beforehand has one cycle, which
launches nothing. If it is cancelled while the second target waits for the worker, the probe of that
one is launched and the third one is left out, whether it is seen by the clock or step by step: the
first two take over their results, and the third one stays unknown. If the run is cancelled between
two cycles it ends at once. -/
theorem cancellation_heeded_waiting :
    let p (c : Nat) : RunPlan :=
      { interval := 100, workers := 1, latency := fun _ => 30
        answers := fun _ id => id.name != "mail", cancelledFrom := some c }
    let web : Identity := ⟨"web", "a", 80⟩
    let db : Identity := ⟨"db", "a", 5432⟩
    let mail : Identity := ⟨"mail", "a", 25⟩
    let m : Monitor := { store := ⟨{ entries := [web, db, mail].map fun id =>
      ⟨id.name, id.address, id.port, true⟩ }, {}⟩ }
    let known (id : Identity) (status : Status) (ms : Int) : TargetState :=
      ⟨id, status, some (.atMillis ms), some (.atMillis ms)⟩
    let names (c : Nat) := ((p c).run m).1.map fun cycle =>
      cycle.launched.map fun probe => probe.1.name
    let moves : List VigilMove :=
      [.within (.listed true), .within .adopted, .within .read, .decided, .within .launched,
       .decided, .cancelled, .within (.returned 0 true (.atMillis 5)), .within (.recorded 0 true),
       .within .launched, .decided, .within (.returned 1 false (.atMillis 9)),
       .within (.recorded 1 false), .within (.collected 1), .within (.collected 0), .within .handed,
       .ended]
    (names 0 = [[]] ∧ ((p 0).run m).2 = some 0) ∧
      (names 95 = [["db", "mail", "web"]] ∧ ((p 95).run m).2 = some 95) ∧
      (∃ e, (p 10).run m = ([e.cycle], some 60) ∧ (p 10).Heeded (p 10).steady m [e] 60 ∧
        e.cycle.launched = [(db, ⟨0, 30⟩), (mail, ⟨30, 60⟩)] ∧
        e.after.registry.get? "db" = some (known db .up 30) ∧
        e.after.registry.get? "mail" = some (known mail .down 60) ∧
        e.after.registry.get? "web" = some { identity := web } ∧
        e.cycle.events = [⟨.down, "mail", "a", 25, .initialCheck, .atMillis 60⟩]) ∧
      ∃ v, Vigil.run? 1 m moves = some v ∧ v.Heeded 1 m moves ∧ v.ended = true ∧
        v.round.launched = [db, mail] ∧
        v.round.monitor.registry.targets =
          [known db .up 5, known mail .down 9, { identity := web }] ∧
        v.round.attempts = [⟨⟨db, true, .first, .atMillis 5⟩, true⟩,
          ⟨⟨mail, false, .first, .atMillis 9⟩, false⟩] ∧
        v.round.batches = [[⟨.down, "mail", "a", 25, .initialCheck, .atMillis 9⟩]] := by
  intro p web db mail m known names moves
  obtain ⟨htimed, hvigil⟩ := cancellation_heeded
  refine ⟨by decide +kernel, by decide +kernel, ?_, ?_⟩
  · obtain ⟨es, ended, hrun, hheeded⟩ := (htimed (p 10) m (by decide) (.inl (by decide))).1
    have hcycles : es.map (fun e => e.cycle.launched) = [[(db, ⟨0, 30⟩), (mail, ⟨30, 60⟩)]] := by
      have hcycles : ((p 10).run m).1.map TimedCycle.launched =
          [[(db, ⟨0, 30⟩), (mail, ⟨30, 60⟩)]] := by decide +kernel
      rwa [hrun, List.map_map] at hcycles
    obtain rfl : ended = 60 := by
      have hended : ((p 10).run m).2 = some 60 := by decide +kernel
      rw [hrun] at hended
      exact Option.some.inj hended
    obtain ⟨e, rfl, hlaunched⟩ := List.map_eq_singleton_iff.mp hcycles
    obtain ⟨e', he', -, hbefore⟩ := hheeded.first
    obtain rfl := Option.some.inj he'
    have hopened : e.opened = m.sync true := congrArg (Monitor.sync · true) hbefore
    have hsettled := hheeded.settled 0 e rfl
    have hnew : ∀ id ∈ [web, db, mail],
        e.opened.registry.get? id.name = some { identity := id } := by
      rw [hopened]
      decide +kernel
    have hdb : (db, ⟨0, 30⟩) ∈ e.cycle.launched := by simp [hlaunched]
    have hmail : (mail, ⟨30, 60⟩) ∈ e.cycle.launched := by simp [hlaunched]
    refine ⟨e, hrun, hheeded, hlaunched, ?_, ?_, ?_, ?_⟩
    · exact hsettled.get?_after hdb (hnew db (by simp))
    · exact hsettled.get?_after hmail (hnew mail (by simp))
    · have hweb : web ∉ e.targets := by
        rw [Episode.targets, hlaunched]
        decide
      have hleft := (hsettled.left_alone web (by rw [hopened]; decide +kernel) hweb).1
      exact hleft.trans (hnew web (by simp))
    · have hevents := hsettled.events_perm
      rw [Episode.answers, hopened, hlaunched] at hevents
      exact List.perm_singleton.mp (hevents.trans (.of_eq (by decide +kernel)))
  · obtain ⟨v, hv⟩ := Option.isSome_iff_exists.mp
      (by decide +kernel : (Vigil.run? 1 m moves).isSome = true)
    -- what is read off the vigil is computed one part at a time
    have hpart : ∀ {α : Type} {f : Vigil → α} {a : α},
        (Vigil.run? 1 m moves).map f = some a → f v = a := by
      intro α f a h
      rw [hv] at h
      exact Option.some.inj h
    exact ⟨v, hv, hvigil 1 m moves v ⟨[], rfl⟩ hv, hpart (by decide +kernel),
      hpart (f := fun v => v.round.launched) (by decide +kernel),
      hpart (f := fun v => v.round.monitor.registry.targets) (by decide +kernel),
      hpart (f := fun v => v.round.attempts) (by decide +kernel),
      hpart (f := fun v => v.round.batches) (by decide +kernel)⟩

end Uptime

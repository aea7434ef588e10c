import Uptime.Check.Run

/-!
# The timeline of a run

The cycles of a run follow each other without overlapping. A cycle begins when it is due, or when
the one before has ended if that is later. A tick that is taken late by more than the tolerance
puts off the ones after it, so that a long cycle is not followed by several short intervals; and as
long as no cycle takes longer than the interval, the cycles begin at its multiples.

Nothing depends on how long the probes take or on what is watched, and both may change from cycle to
cycle.

## Main definitions

* `Circumstances`, `RunPlan.runUnder`: what may change from cycle to cycle, and a run with it.
* `Timeline`: cycles that begin when they are due or when the one before has ended.
* `dueTime`: when a cycle is due, after the starts of the ones before it.
* `Punctual`: what holds of the times of a run.

## Main results

* `RunPlan.runFrom_eq_runUnderFrom`: a run whose circumstances do not change.
* `RunPlan.timeline_runUnderFrom`: the cycles of a run are a timeline.
* `Timeline.start_add_mul_le`, `Timeline.start_eq_of_le`: cycles are apart, and do not drift.
* `RunPlan.punctual_run`: every run is punctual.
-/

namespace Uptime

/-! ### Ticks -/

/-- A cycle begins when it is due, or when the one before has ended. -/
theorem eq_max_of_turn_eq_cycle {c : Option Nat} {due now start : Nat}
    (h : turn c due now = .cycle start) : start = max due now := by
  cases c with
  | none => exact (Turn.cycle.inj h).symm
  | some c =>
    simp only [turn] at h
    split at h
    · cases h
    · exact (Turn.cycle.inj h).symm

/-- The next cycle is due an interval after this one at least. -/
theorem add_le_nextDue (interval due taken : Nat) :
    due + interval ≤ nextDue interval due taken := by
  unfold nextDue
  split <;> omega

/-- The next cycle is due an interval after this one was taken, but for the tolerance. -/
theorem taken_add_le_nextDue (interval due taken : Nat) :
    taken + interval ≤ nextDue interval due taken + lateness := by
  unfold nextDue
  split <;> omega

/-- A cycle that is taken when it is due does not put off the next one. -/
@[simp] theorem nextDue_self (interval due : Nat) : nextDue interval due due = due + interval := by
  simp [nextDue]

/-! ### Timelines -/

/-- Cycles of which the first is due at `due` and begins at `start`. Each of the others begins when
it is due or when the one before has ended, whichever is later. -/
inductive Timeline (interval : Nat) : (due start : Nat) → List TimedCycle → Prop
  /-- There are no more cycles. -/
  | nil {due start : Nat} : Timeline interval due start []
  /-- There is a cycle, which takes some time, and the next one is due. -/
  | cons {due start : Nat} {c : TimedCycle} {cs : List TimedCycle} (hstart : c.start = start)
      (hfinish : start ≤ c.finish)
      (hrest : Timeline interval (nextDue interval due start)
        (max (nextDue interval due start) c.finish) cs) :
      Timeline interval due start (c :: cs)

/-- When a cycle is due, if the ones before it are `cs` and the first of them was due at `due`. -/
def dueTime (interval due : Nat) (cs : List TimedCycle) : Nat :=
  (cs.map TimedCycle.start).foldl (nextDue interval) due

@[simp] theorem dueTime_nil (interval due : Nat) : dueTime interval due [] = due := rfl

@[simp] theorem dueTime_cons (interval due : Nat) (c : TimedCycle) (cs : List TimedCycle) :
    dueTime interval due (c :: cs) = dueTime interval (nextDue interval due c.start) cs := rfl

namespace Timeline

variable {interval due start : Nat} {cs : List TimedCycle} {c c' : TimedCycle}

theorem start_eq (h : Timeline interval due start (c :: cs)) : c.start = start := by
  cases h with
  | cons hstart hfinish hrest => exact hstart

/-- From any cycle on, a timeline is one. -/
theorem drop (h : Timeline interval due start cs) {k : Nat} (hc : cs[k]? = some c) :
    Timeline interval (dueTime interval due (cs.take k)) c.start (cs.drop k) := by
  induction k generalizing due start cs with
  | zero =>
    cases h with
    | nil => simp at hc
    | cons hstart hfinish hrest =>
      obtain rfl := Option.some.inj hc
      exact hstart ▸ .cons hstart hfinish hrest
  | succ k ih =>
    cases h with
    | nil => simp at hc
    | @cons _ _ b cs hstart hfinish hrest =>
      have hrest := ih hrest (by simpa using hc)
      rw [List.take_succ_cons, dueTime_cons, hstart]
      exact hrest

/-- **When the next cycle begins.** -/
theorem start_eq_max (h : Timeline interval due start cs) {k : Nat} (hc : cs[k]? = some c)
    (hc' : cs[k + 1]? = some c') :
    c.start ≤ c.finish ∧ c'.start = max (dueTime interval due (cs.take (k + 1))) c.finish := by
  have hdrop := h.drop hc
  obtain ⟨hk, rfl⟩ := List.getElem?_eq_some_iff.mp hc
  obtain ⟨hk', rfl⟩ := List.getElem?_eq_some_iff.mp hc'
  rw [List.drop_eq_getElem_cons hk, List.drop_eq_getElem_cons hk'] at hdrop
  cases hdrop with
  | cons hstart hfinish hrest =>
    have hdue : dueTime interval due (cs.take (k + 1)) =
        nextDue interval (dueTime interval due (cs.take k)) cs[k].start := by
      rw [List.take_add_one, hc, dueTime, List.map_append, List.foldl_append]
      rfl
    rw [hdue]
    exact ⟨hfinish, hrest.start_eq⟩

/-- A cycle begins some intervals after the first one is due at least. -/
theorem due_add_mul_le (h : Timeline interval due start cs) (hdue : due ≤ start) {k : Nat}
    (hc : cs[k]? = some c) : due + k * interval ≤ c.start := by
  induction k generalizing due start cs with
  | zero =>
    cases h with
    | nil => simp at hc
    | cons hstart hfinish hrest =>
      obtain rfl := Option.some.inj hc
      rw [hstart]
      omega
  | succ k ih =>
    cases h with
    | nil => simp at hc
    | cons hstart hfinish hrest =>
      have hrest := ih hrest (Nat.le_max_left _ _) (by simpa using hc)
      have hnext := add_le_nextDue interval due start
      rw [Nat.succ_mul]
      omega

/-- **Cycles are apart**: some cycles later as many intervals have passed, but for the tolerance,
which is not added up. -/
theorem start_add_mul_le (h : Timeline interval due start cs) {k : Nat} (hc : cs[k]? = some c) :
    start + k * interval ≤ c.start + lateness := by
  cases k with
  | zero =>
    cases h with
    | nil => simp at hc
    | cons hstart hfinish hrest =>
      obtain rfl := Option.some.inj hc
      rw [hstart]
      omega
  | succ k =>
    cases h with
    | nil => simp at hc
    | cons hstart hfinish hrest =>
      -- the tolerance only counts for the first of the cycles
      have hlater := hrest.due_add_mul_le (Nat.le_max_left _ _) (by simpa using hc)
      have hnext := taken_add_le_nextDue interval due start
      rw [Nat.succ_mul]
      omega

/-- **Cycles do not drift**: as long as none takes longer than the interval, they begin when they
are due. -/
theorem start_eq_of_le (h : Timeline interval due due cs) {k : Nat} (hc : cs[k]? = some c)
    (hshort : ∀ i < k, ∀ b, cs[i]? = some b → b.finish ≤ b.start + interval) :
    c.start = due + k * interval := by
  induction k generalizing due cs with
  | zero =>
    cases h with
    | nil => simp at hc
    | cons hstart hfinish hrest =>
      obtain rfl := Option.some.inj hc
      rw [hstart]
      omega
  | succ k ih =>
    cases h with
    | nil => simp at hc
    | @cons _ _ b cs hstart hfinish hrest =>
      have hb : b.finish ≤ b.start + interval := hshort 0 (Nat.succ_pos k) b rfl
      -- the next cycle begins when it is due, for this one has ended by then
      rw [nextDue_self, Nat.max_eq_left (hstart ▸ hb)] at hrest
      have hlater := ih hrest (by simpa using hc) fun i hi b' hb' =>
        hshort (i + 1) (Nat.succ_lt_succ hi) b' (by simpa using hb')
      rw [hlater, Nat.succ_mul]
      omega

end Timeline

/-! ### Runs -/

/-- The end of a cycle is not before its beginning. -/
theorem le_finish (start : Nat) (ls : List Launch) : start ≤ finish start ls := by
  refine List.foldlRecOn (motive := fun t => start ≤ t) ls _ (Nat.le_refl start) ?_
  intro t ht l _
  exact Nat.le_trans ht (Nat.le_max_left _ _)

/-- What may change from cycle to cycle. -/
structure Circumstances where
  /-- How long a probe takes in the cycle of a number. -/
  latency : Nat → Identity → Nat
  /-- What others do to the monitor before the cycle of a number. -/
  before : Nat → Monitor → Monitor

namespace RunPlan

/-- The circumstances of a run in which nothing changes. -/
def steady (p : RunPlan) : Circumstances := ⟨fun _ => p.latency, fun _ m => m⟩

/-- The cycles of a run under some circumstances, from the one with the number `k` on, at most as
many as there is fuel, and the time at which the run ends. -/
def runUnderFrom (p : RunPlan) (w : Circumstances) :
    (fuel k due start : Nat) → Monitor → List TimedCycle × Option Nat
  | 0, _, _, _, _ => ([], none)
  | fuel + 1, k, due, start, m =>
    let (c, m) := { p with latency := w.latency k }.cycle k start (w.before k m)
    let p := p.afterCycle k c.finish
    let due := nextDue p.interval due start
    match turn p.cancelledFrom due c.finish with
    | .stop time => ([c], some time)
    | .cycle start =>
      let (cs, ended) := runUnderFrom p w fuel (k + 1) due start m
      (c :: cs, ended)

/-- The first cycles of a run under some circumstances. -/
def runUnder (p : RunPlan) (w : Circumstances) (n : Nat) (m : Monitor) :
    List TimedCycle × Option Nat :=
  p.runUnderFrom w n 0 0 0 m

@[simp] theorem interval_afterCycle (p : RunPlan) (k finish : Nat) :
    (p.afterCycle k finish).interval = p.interval := by
  unfold afterCycle
  split <;> rfl

@[simp] theorem latency_afterCycle (p : RunPlan) (k finish : Nat) :
    (p.afterCycle k finish).latency = p.latency := by
  unfold afterCycle
  split <;> rfl

/-- The end of a cycle makes no difference to a run that nobody stops. -/
theorem afterCycle_eq_self {p : RunPlan} (h : p.stopAfter = none) (k finish : Nat) :
    p.afterCycle k finish = p := by
  simp [afterCycle, h]

/-- **A run is one in which nothing changes.** -/
theorem runFrom_eq_runUnderFrom (p : RunPlan) (n k due start : Nat) (m : Monitor) :
    p.runFrom n k due start m = p.runUnderFrom p.steady n k due start m := by
  induction n generalizing p k due start m with
  | zero => rfl
  | succ n ih =>
    have hsteady : ∀ k finish, (p.afterCycle k finish).steady = p.steady := by
      intro k finish
      rw [steady, latency_afterCycle, steady]
    simp only [runFrom, runUnderFrom, ih, hsteady]
    rfl

/-- **The cycles of a run are a timeline.** -/
theorem timeline_runUnderFrom (p : RunPlan) (w : Circumstances) (n k due start : Nat)
    (m : Monitor) : Timeline p.interval due start (p.runUnderFrom w n k due start m).1 := by
  induction n generalizing p k due start m with
  | zero => exact .nil
  | succ n ih =>
    rw [runUnderFrom]
    let c := ({ p with latency := w.latency k }.cycle k start (w.before k m)).1
    have hfinish : start ≤ c.finish := le_finish start _
    dsimp only
    split
    · exact .cons rfl hfinish .nil
    · next start' hturn =>
      have hrest := ih (p.afterCycle k c.finish) (k + 1)
        (nextDue (p.afterCycle k c.finish).interval due start) start'
        ({ p with latency := w.latency k }.cycle k start (w.before k m)).2
      rw [eq_max_of_turn_eq_cycle hturn, interval_afterCycle] at hrest
      rw [eq_max_of_turn_eq_cycle hturn, interval_afterCycle]
      exact .cons rfl hfinish hrest

/-- **A run that is not cancelled goes on.** -/
theorem length_runUnderFrom {p : RunPlan} (hcancelled : p.cancelledFrom = none)
    (hstop : p.stopAfter = none) (w : Circumstances) (n k due start : Nat) (m : Monitor) :
    (p.runUnderFrom w n k due start m).1.length = n ∧
      (p.runUnderFrom w n k due start m).2 = none := by
  have hturn : ∀ due now, turn p.cancelledFrom due now = .cycle (max due now) := by
    intro due now
    rw [hcancelled]
    rfl
  induction n generalizing k due start m with
  | zero => exact ⟨rfl, rfl⟩
  | succ n ih =>
    obtain ⟨hlength, hended⟩ := ih (k + 1) (nextDue p.interval due start)
      (max (nextDue p.interval due start)
        ({ p with latency := w.latency k }.cycle k start (w.before k m)).1.finish)
      ({ p with latency := w.latency k }.cycle k start (w.before k m)).2
    simp only [runUnderFrom, afterCycle_eq_self hstop, hturn, List.length_cons, hlength, hended,
      and_self]

end RunPlan

/-! ### Punctuality -/

/-- What holds of the times of the cycles of a run, of which the first is due at time 0. -/
structure Punctual (interval : Nat) (cs : List TimedCycle) : Prop where
  first : ∀ c, cs[0]? = some c → c.start = 0
  /-- A cycle begins when it is due or when the one before has ended, whichever is later. -/
  start_eq : ∀ k c c', cs[k]? = some c → cs[k + 1]? = some c' →
    c'.start = max (dueTime interval 0 (cs.take (k + 1))) c.finish
  /-- Cycles do not overlap. -/
  start_le : ∀ k c c', cs[k]? = some c → cs[k + 1]? = some c' →
    c.start ≤ c.finish ∧ c.finish ≤ c'.start
  /-- The starts of two cycles are as many intervals apart as there are cycles from one to the
  other, but for the tolerance. -/
  apart : ∀ k n c c', cs[k]? = some c → cs[k + n]? = some c' →
    c.start + n * interval ≤ c'.start + lateness
  /-- A cycle that runs past the time at which the next one is due is followed at once. -/
  at_once : ∀ k c c', cs[k]? = some c → cs[k + 1]? = some c' →
    dueTime interval 0 (cs.take (k + 1)) ≤ c.finish → c'.start = c.finish
  /-- As long as no cycle takes longer than the interval there is no drift. -/
  no_drift : ∀ k c, cs[k]? = some c →
    (∀ i < k, ∀ b, cs[i]? = some b → b.finish ≤ b.start + interval) → c.start = k * interval

theorem Timeline.punctual {interval : Nat} {cs : List TimedCycle}
    (h : Timeline interval 0 0 cs) : Punctual interval cs where
  first c hc := by
    cases h with
    | nil => simp at hc
    | cons hstart hfinish hrest => exact Option.some.inj hc ▸ hstart
  start_eq k c c' hc hc' := (h.start_eq_max hc hc').2
  start_le k c c' hc hc' := by
    obtain ⟨hfinish, hstart⟩ := h.start_eq_max hc hc'
    exact ⟨hfinish, hstart ▸ Nat.le_max_right _ _⟩
  apart k n c c' hc hc' := by
    refine (h.drop hc).start_add_mul_le ?_
    rw [List.getElem?_drop]
    exact hc'
  at_once k c c' hc hc' hlate := by
    rw [(h.start_eq_max hc hc').2, Nat.max_eq_right hlate]
  no_drift k c hc hshort := by
    rw [h.start_eq_of_le hc hshort, Nat.zero_add]

namespace RunPlan

/-- **Every run is punctual**, however long its probes take and whatever is watched in each cycle;
and as long as it is not cancelled it goes on. -/
theorem punctual_run (p : RunPlan) (w : Circumstances) (m : Monitor) :
    (∀ n, Punctual p.interval (p.runUnder w n m).1) ∧
    Punctual p.interval (p.run m).1 ∧
    (p.cancelledFrom = none → p.stopAfter = none → ∀ n,
      (p.runUnder w n m).1.length = n ∧ (p.runUnder w n m).2 = none) := by
  have htimeline : ∀ w n, Timeline p.interval 0 0 (p.runUnder w n m).1 := fun w n =>
    p.timeline_runUnderFrom w n 0 0 0 m
  refine ⟨fun n => (htimeline w n).punctual, ?_, fun hcancelled hstop n => ?_⟩
  · rw [run, runFrom_eq_runUnderFrom]
    exact (htimeline p.steady p.fuel).punctual
  · exact length_runUnderFrom hcancelled hstop w n 0 0 0 m

/-- The first of four cycles takes more than two intervals and is followed at once, and so is the
second one, which ends a little late. The fourth one begins less than an interval after the third,
within the tolerance. -/
theorem punctual_run_overlong :
    let p : RunPlan :=
      { interval := 100, workers := 0, latency := fun _ => 0, answers := fun _ _ => true }
    let w : Circumstances := ⟨fun k _ => [250, 103, 0, 7].getD k 0, fun _ m => m⟩
    let m : Monitor := { store := ⟨{ entries := [⟨"web", "a", 80, true⟩] }, {}⟩ }
    (p.runUnder w 4 m).1.map TimedCycle.start = [0, 250, 353, 450] ∧
      p.cancelledFrom = none ∧ p.stopAfter = none ∧
      (p.runUnder w 4 m).1.length = 4 ∧ Punctual 100 (p.runUnder w 4 m).1 := by
  intro p w m
  obtain ⟨hpunctual, -, hlength⟩ := punctual_run p w m
  exact ⟨by decide +kernel, rfl, rfl, (hlength rfl rfl 4).1, hpunctual 4⟩

end RunPlan

end Uptime

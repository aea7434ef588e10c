import Uptime.Proofs.Round.CutShort

/-!
# Vigils

A monitor on watch goes from one round to the next until it is cancelled. The cancellation can come
between any two steps, and it is looked for twice: before the next target of a round waits for a
worker, and when a round is over. A target that was found to be wanted is probed when there is a
worker, even if the cancellation has come meanwhile.

## Main definitions

* `Shift`: a round with the moves that have led to it.
* `Vigil`, `Vigil.step?`, `Vigil.run?`: a vigil, what happens next, and what has happened so far.
* `Vigil.Step`: what a move does, in the form of a relation.
* `Vigil.Sound`: what holds of a vigil at any time.

## Main results

* `Vigil.Step.of_step?`: each move is one of the relation.
* `Vigil.sound_run`: a vigil is sound at any time.
-/

namespace Uptime

/-- A round with the moves that have led to it. -/
structure Shift where
  /-- The monitor when the round began. -/
  monitor : Monitor
  /-- The moves so far. -/
  moves : List RoundMove := []
  /-- The round. -/
  round : Round := { monitor }
  deriving DecidableEq, Repr

/-- A monitor on watch. -/
structure Vigil where
  /-- The shift in progress, or the last one. -/
  shift : Shift
  /-- The shifts before it, in order. -/
  past : List Shift := []
  /-- Whether it has been cancelled. -/
  cancelled : Bool := false
  /-- Whether the next target has been found to be wanted, and waits for a worker. -/
  cleared : Bool := false
  /-- Whether it has come to its end. -/
  ended : Bool := false
  deriving DecidableEq, Repr

/-- What may happen next. -/
inductive VigilMove
  /-- Somebody cancels the vigil. -/
  | cancelled
  /-- It is decided whether the next target is still wanted. -/
  | decided
  /-- There is a move in the round, or by others between two rounds. -/
  | within (a : RoundMove)
  /-- The next round begins. -/
  | begun
  /-- The vigil comes to its end. -/
  | ended
  deriving DecidableEq, Repr

/-- The round in progress, or the last one. -/
abbrev Vigil.round (v : Vigil) : Round := v.shift.round

/-- Whether the vigil does it itself. -/
def VigilMove.isOwn : VigilMove → Bool
  | cancelled => false
  | within a => a.isOwn
  | _ => true

/-! ### Shifts -/

namespace Shift

/-- The shift after a move in its round, unless it is not its turn. -/
def step? (workers : Nat) (s : Shift) (a : RoundMove) : Option Shift :=
  (s.round.step? workers a).map fun r => { s with moves := s.moves ++ [a], round := r }

/-- The round of a shift is that of its moves. -/
structure Traced (workers : Nat) (s : Shift) : Prop where
  reachable : s.monitor.Reachable
  run_eq : Round.run? workers s.monitor s.moves = some s.round

/-- Shifts follow one another: the first begins with a monitor, and each of the others with what
the one before has left. -/
def Linked : Monitor → List Shift → Prop
  | _, [] => True
  | m, s :: ss => s.monitor = m ∧ Linked s.round.monitor ss

section

variable {workers : Nat} {m : Monitor} {s s' : Shift} {ss : List Shift} {a : RoundMove}

theorem step?_eq {r : Round} (h : s.round.step? workers a = some r) :
    s.step? workers a = some { s with moves := s.moves ++ [a], round := r } := by
  rw [step?, h]
  rfl

theorem exists_of_step? (h : s.step? workers a = some s') :
    ∃ r, s.round.step? workers a = some r ∧
      s' = { s with moves := s.moves ++ [a], round := r } := by
  obtain ⟨r, hr, rfl⟩ := Option.map_eq_some_iff.mp h
  exact ⟨r, hr, rfl⟩

/-- What a move does to the round. -/
theorem step_of_step? (h : s.step? workers a = some s') :
    Round.Step workers s.round a s'.round := by
  obtain ⟨r, hr, rfl⟩ := exists_of_step? h
  exact .of_step? hr

theorem Traced.step (h : s.Traced workers) (hstep : s.step? workers a = some s') :
    s'.Traced workers := by
  obtain ⟨r, hr, rfl⟩ := exists_of_step? hstep
  refine ⟨h.reachable, Round.runFrom?_append h.run_eq ?_⟩
  rw [Round.runFrom?, List.foldlM_cons, hr]
  rfl

theorem Traced.orderly (h : s.Traced workers) : s.round.Orderly :=
  Round.orderly_of_reachable h.reachable h.run_eq

/-- The shift that comes next. -/
theorem Traced.next (h : s.Traced workers) : Traced workers { monitor := s.round.monitor } :=
  ⟨h.orderly.registry_eq, rfl⟩

/-- The monitor that some shifts leave. -/
def left (m : Monitor) (ss : List Shift) : Monitor := (ss.getLast?.map (·.round.monitor)).getD m

theorem left_cons : left m (s :: ss) = left s.round.monitor ss := by
  cases ss with
  | nil => rfl
  | cons s' ss => simp [left, List.getLast?_cons]

theorem left_append_singleton : left m (ss ++ [s]) = s.round.monitor := by
  rw [left, List.getLast?_concat]
  rfl

theorem linked_append_singleton :
    Linked m (ss ++ [s]) ↔ Linked m ss ∧ s.monitor = left m ss := by
  induction ss generalizing m with
  | nil => simp [Linked, left]
  | cons s' ss ih => rw [List.cons_append, Linked, Linked, ih, left_cons, and_assoc]

end

end Shift

namespace Vigil

/-! ### Steps -/

/-- The vigil when it has been cancelled. -/
def cancel (v : Vigil) : Vigil := { v with cancelled := true }

/-- The vigil after a move, unless it is not its turn. Whether a vigil goes on is decided at once
when a round is over. -/
def step? (workers : Nat) (v : Vigil) : VigilMove → Option Vigil
  | .cancelled => some v.cancel
  | .decided =>
    if v.round.waiting = [] ∨ v.cleared = true then none
    else if v.cancelled then (v.shift.step? workers .cancelled).map fun s => { v with shift := s }
    else some { v with cleared := true }
  | .within .cancelled => none
  | .within .launched =>
    if v.cleared then
      (v.shift.step? workers .launched).map fun s => { v with shift := s, cleared := false }
    else none
  | .within a => (v.shift.step? workers a).map fun s => { v with shift := s }
  | .begun =>
    if v.round.stage = .finished ∧ v.cancelled = false then
      some { v with shift := { monitor := v.round.monitor }, past := v.past ++ [v.shift] }
    else none
  | .ended =>
    if v.round.stage = .finished ∧ v.cancelled = true ∧ v.ended = false then
      some { v with ended := true }
    else none

/-- A vigil after some moves, if each comes at its turn. -/
def runFrom? (workers : Nat) (v : Vigil) (moves : List VigilMove) : Option Vigil :=
  moves.foldlM (step? workers) v

/-- A vigil of a monitor after some moves, if each comes at its turn. Its first round has begun. -/
def run? (workers : Nat) (m : Monitor) (moves : List VigilMove) : Option Vigil :=
  runFrom? workers { shift := { monitor := m } } moves

/-- What a move does to a vigil. -/
inductive Step (workers : Nat) (v : Vigil) : VigilMove → Vigil → Prop
  | cancelled : Step workers v .cancelled v.cancel
  | cleared (hwaiting : v.round.waiting ≠ []) (hcancelled : v.cancelled = false) :
      Step workers v .decided { v with cleared := true }
  | stopped {s : Shift} (hcleared : v.cleared = false) (hwaiting : v.round.waiting ≠ [])
      (h : v.shift.step? workers .cancelled = some s) :
      Step workers v .decided { v with shift := s }
  | launched {s : Shift} (hcleared : v.cleared = true)
      (h : v.shift.step? workers .launched = some s) :
      Step workers v (.within .launched) { v with shift := s, cleared := false }
  | within {a : RoundMove} {s : Shift} (ha : a ≠ .launched) (ha' : a ≠ .cancelled)
      (h : v.shift.step? workers a = some s) : Step workers v (.within a) { v with shift := s }
  | begun (hfinished : v.round.stage = .finished) (hcancelled : v.cancelled = false) :
      Step workers v .begun
        { v with shift := { monitor := v.round.monitor }, past := v.past ++ [v.shift] }
  | ended (hfinished : v.round.stage = .finished) (hcancelled : v.cancelled = true)
      (hended : v.ended = false) : Step workers v .ended { v with ended := true }

section

variable {workers : Nat} {m : Monitor} {v v' : Vigil} {b : VigilMove} {moves : List VigilMove}

theorem step?_within {a : RoundMove} (ha : a ≠ .launched) (ha' : a ≠ .cancelled) :
    v.step? workers (.within a) = (v.shift.step? workers a).map fun s => { v with shift := s } := by
  cases a with
  | launched => exact absurd rfl ha
  | cancelled => exact absurd rfl ha'
  | _ => rfl

/-- **What a move does.** -/
theorem Step.of_step? (h : v.step? workers b = some v') : Step workers v b v' := by
  cases b with
  | cancelled =>
    cases h
    exact .cancelled
  | decided =>
    simp only [step?] at h
    split at h
    · cases h
    · next hopen =>
      rw [not_or, Bool.not_eq_true] at hopen
      split at h
      · obtain ⟨r, hr, rfl⟩ := Option.map_eq_some_iff.mp h
        exact .stopped hopen.2 hopen.1 hr
      · next hcancelled =>
        cases h
        exact .cleared hopen.1 (by simpa using hcancelled)
  | within a =>
    by_cases ha : a = .launched
    · subst ha
      simp only [step?] at h
      split at h
      · next hcleared =>
        obtain ⟨r, hr, rfl⟩ := Option.map_eq_some_iff.mp h
        exact .launched hcleared hr
      · cases h
    · by_cases ha' : a = .cancelled
      · subst ha'
        cases h
      · rw [step?_within ha ha'] at h
        obtain ⟨r, hr, rfl⟩ := Option.map_eq_some_iff.mp h
        exact .within ha ha' hr
  | begun =>
    simp only [step?] at h
    split at h <;> cases h
    next hbegin => exact .begun hbegin.1 hbegin.2
  | ended =>
    simp only [step?] at h
    split at h <;> cases h
    next hend => exact .ended hend.1 hend.2.1 hend.2.2

/-! ### What holds at any time -/

/-- What holds of a vigil of the monitor `m` at any time. -/
structure Sound (workers : Nat) (m : Monitor) (v : Vigil) : Prop where
  linked : Shift.Linked m (v.past ++ [v.shift])
  traced : ∀ s ∈ v.past ++ [v.shift], s.Traced workers
  finished : ∀ s ∈ v.past, s.round.stage = .finished
  waiting_ne : v.cleared = true → v.round.waiting ≠ []
  of_ended : v.ended = true → v.round.stage = .finished ∧ v.cancelled = true

theorem Sound.traced_shift (h : v.Sound workers m) : v.shift.Traced workers :=
  h.traced _ (List.mem_append_right _ List.mem_cons_self)

theorem sound_begin (hm : m.Reachable) : Sound workers m { shift := { monitor := m } } where
  linked := ⟨rfl, trivial⟩
  traced s hs := by
    rw [List.mem_singleton.mp hs]
    exact ⟨hm, rfl⟩
  finished s hs := by cases hs
  waiting_ne h := by cases h
  of_ended h := by cases h

/-- A move in the round keeps what holds of the shifts. -/
theorem Sound.withShift (h : v.Sound workers m) {a : RoundMove} {s : Shift}
    (hs : v.shift.step? workers a = some s) :
    Shift.Linked m (v.past ++ [s]) ∧ ∀ s' ∈ v.past ++ [s], s'.Traced workers := by
  refine ⟨?_, fun s' hs' => ?_⟩
  · have hlinked := h.linked
    rw [Shift.linked_append_singleton] at hlinked ⊢
    obtain ⟨r, -, rfl⟩ := Shift.exists_of_step? hs
    exact hlinked
  · rcases List.mem_append.mp hs' with hpast | hlast
    · exact h.traced _ (List.mem_append_left _ hpast)
    · rw [List.mem_singleton.mp hlast]
      exact h.traced_shift.step hs

/-- A vigil that has come to its end has no targets waiting. -/
theorem Sound.waiting_of_ended (h : v.Sound workers m) (hended : v.ended = true) :
    v.round.waiting = [] :=
  Round.waiting_of_finished (h.of_ended hended).1

/-- **A move keeps what holds of a vigil.** -/
theorem Sound.step (h : v.Sound workers m) (hstep : Step workers v b v') :
    v'.Sound workers m := by
  cases hstep with
  | cancelled => exact { h with of_ended := fun hended => ⟨(h.of_ended hended).1, rfl⟩ }
  | cleared hwaiting hcancelled => exact { h with waiting_ne := fun _ => hwaiting }
  | stopped hcleared hwaiting hs =>
    obtain ⟨hlinked, htraced⟩ := h.withShift hs
    exact ⟨hlinked, htraced, h.finished, fun hcleared' => by simp [hcleared] at hcleared',
      fun hended => absurd (h.waiting_of_ended hended) hwaiting⟩
  | launched hcleared hs =>
    obtain ⟨hlinked, htraced⟩ := h.withShift hs
    exact ⟨hlinked, htraced, h.finished, nofun,
      fun hended => absurd (h.waiting_of_ended hended) (h.waiting_ne hcleared)⟩
  | within ha ha' hs =>
    obtain ⟨hlinked, htraced⟩ := h.withShift hs
    have hround := Shift.step_of_step? hs
    refine ⟨hlinked, htraced, h.finished, fun hcleared => ?_, fun hended => ?_⟩
    · have hwaiting := h.waiting_ne hcleared
      rwa [hround.waiting_eq ha ha' hwaiting]
    · exact ⟨hround.stage_of_finished (h.of_ended hended).1, (h.of_ended hended).2⟩
  | begun hfinished hcancelled =>
    refine ⟨?_, fun s hs => ?_, fun s hs => ?_, fun hcleared => ?_, fun hended => ?_⟩
    · exact Shift.linked_append_singleton.mpr ⟨h.linked, Shift.left_append_singleton.symm⟩
    · rcases List.mem_append.mp hs with hpast | hlast
      · exact h.traced s hpast
      · rw [List.mem_singleton.mp hlast]
        exact h.traced_shift.next
    · rcases List.mem_append.mp hs with hpast | hlast
      · exact h.finished s hpast
      · rw [List.mem_singleton.mp hlast]
        exact hfinished
    · exact absurd (Round.waiting_of_finished hfinished) (h.waiting_ne hcleared)
    · simp [(h.of_ended hended).2] at hcancelled
  | ended hfinished hcancelled _ => exact { h with of_ended := fun _ => ⟨hfinished, hcancelled⟩ }

/-- **A vigil is sound at any time.** -/
theorem sound_run (hm : m.Reachable) (h : run? workers m moves = some v) : v.Sound workers m :=
  foldlM_induction (P := Sound workers m) (sound_begin hm)
    (fun hq hstep => hq.step (.of_step? hstep)) h

end

end Vigil

end Uptime

/-!
# The schedule of cycles

Cycles are due at regular intervals and never overlap. The first is due at time 0; a cycle
that is taken late puts off the ones after it, instead of being followed by several at once.
Times are milliseconds.

## Main definitions

* `nextDue`: when the next cycle is due.
* `Turn`, `turn`: what follows after a cycle.
-/

namespace Uptime

/-- By how much a cycle may be late without putting off the ones after it. -/
def lateness : Nat := 5

/-- When the cycle after one that was due at `due` and taken at `taken` is due. -/
def nextDue (interval due taken : Nat) : Nat :=
  if taken ≤ due + lateness then due + interval else taken + interval

/-- What follows after a cycle. -/
inductive Turn
  /-- The next cycle begins. -/
  | cycle (start : Nat)
  /-- Cycles come to an end. -/
  | stop (time : Nat)
  deriving DecidableEq, Repr

/-- What follows after a cycle that ended at `now`, if the next one is due at `due` and the
cancellation is known from the time `cancelledFrom` on. A cancellation that is known when the
cycle could begin comes first. -/
def turn (cancelledFrom : Option Nat) (due now : Nat) : Turn :=
  let start := max due now
  match cancelledFrom with
  | some c => if c ≤ start then .stop (max c now) else .cycle start
  | none => .cycle start

/-- A cycle begins when it is due, and not before the one before has ended. -/
theorem le_of_turn_eq_cycle {c : Option Nat} {due now start : Nat}
    (h : turn c due now = .cycle start) : due ≤ start ∧ now ≤ start := by
  have : start = max due now := by
    cases c with
    | none => simpa [turn, eq_comm] using h
    | some c =>
      by_cases hc : c ≤ max due now
      · simp [turn, hc] at h
      · simpa [turn, hc, eq_comm] using h
  omega

end Uptime

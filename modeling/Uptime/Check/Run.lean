import Uptime.Check.Cycle
import Uptime.Check.Launch
import Uptime.Check.Schedule

/-!
# Runs of cycles

A run watches the targets of a catalog until it is cancelled. Only probes take time.

## Main definitions

* `RunPlan`: what a run depends on.
* `TimedCycle`: a cycle with its times.
* `RunPlan.cycle`: one cycle of a run.
* `RunPlan.run`: the cycles of a run and the time at which it ends.
-/

namespace Uptime

/-- What a run depends on. Times are milliseconds. -/
structure RunPlan where
  /-- The time between two cycles. -/
  interval : Nat
  /-- The configured number of workers. -/
  workers : Nat
  /-- How long a probe takes. -/
  latency : Identity → Nat
  /-- Whether a target answers in the cycle of a number. -/
  answers : Nat → Identity → Bool
  /-- The time from which on a cancellation is known. -/
  cancelledFrom : Option Nat := none
  /-- The number of cycles after which the run is cancelled. -/
  stopAfter : Option Nat := none

/-- A cycle with its times. -/
structure TimedCycle where
  /-- When it began. -/
  start : Nat
  /-- When it ended. -/
  finish : Nat
  /-- The most probes that were under way together. -/
  peak : Nat
  /-- The probes that were launched, with their times. -/
  launched : List (Identity × Launch)
  /-- The events that came of it. -/
  events : List Event

namespace RunPlan

/-- Whether a cancellation is known at a time. -/
def knownAt (cancelledFrom : Option Nat) (t : Nat) : Bool := cancelledFrom.any (· ≤ t)

/-- The cycle with the number `k`, which begins at `start`. Results come in as the probes
end. -/
def cycle (p : RunPlan) (k start : Nat) (m : Monitor) : TimedCycle × Monitor :=
  let c := Cycle.start m true
  let ids := c.monitor.registry.identities
  let ls := launches (effectiveWorkers p.workers ids.length) (knownAt p.cancelledFrom) start []
    (ids.map p.latency)
  let launched := ids.zip ls
  let ended := launched.mergeSort fun a b => a.2.finish ≤ b.2.finish
  let settle (c : Cycle) (probe : Identity × Launch) : Cycle :=
    c.settle probe.1 (p.answers k probe.1) (.atMillis probe.2.finish) true
  let c := ended.foldl settle c
  (⟨start, finish start ls, peak ls, launched, c.events⟩, c.monitor)

/-- The plan after a cycle has ended: if it was the last one wanted, the run is cancelled. -/
def afterCycle (p : RunPlan) (k finish : Nat) : RunPlan :=
  if p.stopAfter = some (k + 1) then
    { p with cancelledFrom := some (min finish (p.cancelledFrom.getD finish)) }
  else p

/-- The cycles from the one with the number `k` on, at most as many as there is fuel, and the
time at which the run ends. -/
def runFrom (p : RunPlan) : (fuel k due start : Nat) → Monitor → List TimedCycle × Option Nat
  | 0, _, _, _, _ => ([], none)
  | fuel + 1, k, due, start, m =>
    let (c, m) := p.cycle k start m
    let p := p.afterCycle k c.finish
    let due := nextDue p.interval due start
    match turn p.cancelledFrom due c.finish with
    | .stop time => ([c], some time)
    | .cycle start =>
      let (cs, ended) := runFrom p fuel (k + 1) due start m
      (c :: cs, ended)

/-- Enough fuel for a run that is cancelled at some time or after some cycles: the due times
of two cycles differ by the interval at least. -/
def fuel (p : RunPlan) : Nat :=
  match p.stopAfter, p.cancelledFrom with
  | some (n + 1), _ => n + 1
  | _, some c => c / max 1 p.interval + 2
  | _, none => 0

/-- The cycles of a run, and the time at which it ends. The first cycle takes place even if the
run is cancelled beforehand. -/
def run (p : RunPlan) (m : Monitor) : List TimedCycle × Option Nat := p.runFrom p.fuel 0 0 0 m

end RunPlan

end Uptime

/-!
# Workers

How many probes may be under way at the same time.

## Main definitions

* `effectiveWorkers`: the number of workers for a round of probes.
-/

namespace Uptime

/-- The most workers, whatever is configured. -/
def maxWorkers : Nat := 256

/-- The number of workers for a number of targets. Without a configured number each target has
its own; there is always one, and never one too many. -/
def effectiveWorkers (configured targets : Nat) : Nat :=
  let wanted := if configured = 0 then targets else configured
  max 1 (min wanted (max 1 (min targets maxWorkers)))

/-- No round of probes is stuck without a worker. -/
theorem effectiveWorkers_pos (configured targets : Nat) :
    0 < effectiveWorkers configured targets := by
  simp only [effectiveWorkers]
  omega

/-- A configured number of workers is never exceeded. -/
theorem effectiveWorkers_le {configured : Nat} (h : configured ≠ 0) (targets : Nat) :
    effectiveWorkers configured targets ≤ configured := by
  simp only [effectiveWorkers, h, if_false]
  omega

end Uptime

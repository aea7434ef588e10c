/-!
# Launching probes

The times at which the probes of a cycle are launched and end. A probe is launched as soon as
a worker is free; before it waits for one, it is checked whether the cycle has been cancelled.
Times are whole units of any size.

## Main definitions

* `Launch`: when a probe is launched and when it ends.
* `launches`: the launches of a cycle.
* `inFlight`, `peak`: how many probes are under way.
* `finish`: when the cycle ends.
-/

namespace Uptime

/-- When a probe is under way. -/
structure Launch where
  /-- When it is launched. -/
  start : Nat
  /-- When it ends. -/
  finish : Nat
  deriving DecidableEq, Repr

/-- The time at which a worker is free, where `ends` are the times at which the probes under
way will end. -/
def freeAt (workers now : Nat) (ends : List Nat) : Nat :=
  if ends.length < workers then now else ends.min?.getD now

/-- The launches of probes with the durations `ds`, from a time on. `ends` are the times at
which earlier probes end. The check for a cancellation precedes the wait for a worker. -/
def launches (workers : Nat) (cancelled : Nat → Bool) (now : Nat) (ends : List Nat) :
    List Nat → List Launch
  | [] => []
  | d :: ds =>
    if cancelled now then []
    else
      let start := freeAt workers now (ends.filter (now < ·))
      ⟨start, start + d⟩ :: launches workers cancelled start ((start + d) :: ends) ds

/-- How many launches are under way at a time. -/
def inFlight (ls : List Launch) (t : Nat) : Nat :=
  ls.countP fun l => l.start ≤ t ∧ t < l.finish

/-- The most probes that are under way together, where `earlier` are the launches before. A
probe counts even if it ends as soon as it is launched. -/
def peakFrom (earlier : List Launch) : List Launch → Nat
  | [] => 0
  | l :: ls =>
    max (1 + earlier.countP fun e => l.start < e.finish) (peakFrom (l :: earlier) ls)

/-- The most probes that are under way together. -/
def peak (ls : List Launch) : Nat := peakFrom [] ls

/-- When the last of some probes ends; the time of the beginning if there are none. -/
def finish (start : Nat) (ls : List Launch) : Nat :=
  ls.foldl (fun t l => max t l.finish) start

/-- No more probes are launched than there are. -/
theorem length_launches_le (workers : Nat) (cancelled : Nat → Bool) (now : Nat)
    (ends ds : List Nat) : (launches workers cancelled now ends ds).length ≤ ds.length := by
  induction ds generalizing now ends with
  | nil => simp [launches]
  | cons d ds ih =>
    rw [launches]
    split
    · simp
    · simpa using ih _ _

end Uptime

import Uptime.Check.Workers
import Uptime.Monitor

/-!
# Check cycles

A cycle brings the registry up to date, probes every target and hands over the events that
came of it in one batch. While probes are under way the catalog may be changed, and the cycle
may be cancelled, which keeps it from launching further probes.

## Main definitions

* `Happening`: what may happen during a cycle.
* `Cycle`, `Cycle.step`: a cycle and its progress.
* `Prober`: the world in which probes happen.
* `Cycle.run`: a cycle whose probes take no time.
-/

namespace Uptime

/-- How a probe ends. -/
inductive ProbeOutcome
  /-- The target answers. -/
  | up
  /-- It does not. -/
  | down
  /-- The probe itself dies. -/
  | died
  deriving DecidableEq, Repr, Inhabited

/-- Something that happens during a cycle. -/
inductive Happening
  /-- A probe ends; its result can be recorded or not. -/
  | probed (id : Identity) (outcome : ProbeOutcome) (now : Instant) (recordingSucceeds : Bool)
  /-- A target is written into the catalog. -/
  | upserted (name address : String) (port : Int) (writing : Writing) (listingSucceeds : Bool)
  /-- A target is switched off. -/
  | deleted (name : String) (writing : Writing) (listingSucceeds : Bool)
  /-- The registry is brought up to date. -/
  | synced (listingSucceeds : Bool)

/-- A result that was handed to the check log. -/
structure Attempt where
  /-- The result. -/
  result : CheckResult
  /-- Whether it was recorded. -/
  recorded : Bool
  deriving DecidableEq, Repr

/-- A cycle in progress. -/
structure Cycle where
  /-- The monitor. -/
  monitor : Monitor
  /-- The probes that were launched, in order. -/
  launched : List Identity := []
  /-- The results that were handed to the check log, in order. -/
  attempts : List Attempt := []
  /-- The events so far. -/
  events : List Event := []

namespace Cycle

/-- The beginning of a cycle. -/
def start (m : Monitor) (listingSucceeds : Bool) : Cycle := { monitor := m.sync listingSucceeds }

/-- Takes over the result of a probe. -/
def settle (c : Cycle) (id : Identity) (up : Bool) (now : Instant) (recordingSucceeds : Bool) :
    Cycle :=
  let (settlement, monitor) := c.monitor.settle id up now recordingSucceeds
  { c with
    monitor
    attempts := c.attempts ++ settlement.recording.toList.map (⟨·, recordingSucceeds⟩)
    events := c.events ++ settlement.event.toList }

/-- The progress that a happening brings. A probe that dies leaves no trace. -/
def step (c : Cycle) : Happening → Cycle
  | .probed id .up now recordingSucceeds => c.settle id true now recordingSucceeds
  | .probed id .down now recordingSucceeds => c.settle id false now recordingSucceeds
  | .probed _ .died _ _ => c
  | .upserted name address port writing listingSucceeds =>
    { c with monitor := (c.monitor.upsert name address port writing listingSucceeds).2 }
  | .deleted name writing listingSucceeds =>
    { c with monitor := (c.monitor.delete name writing listingSucceeds).2 }
  | .synced listingSucceeds => { c with monitor := c.monitor.sync listingSucceeds }

end Cycle

/-- What becomes of one probe. -/
structure ProbeReport where
  /-- What happens before it ends. -/
  meanwhile : List Happening := []
  /-- How it ends. -/
  outcome : ProbeOutcome
  /-- When it ends. -/
  now : Instant
  /-- Whether its result can be recorded. -/
  recordingSucceeds : Bool := true
  /-- Whether the cycle is cancelled before it ends. -/
  cancels : Bool := false

/-- The world in which probes happen, a machine with a state. -/
structure Prober (σ : Type) where
  /-- What becomes of a probe. -/
  probe : Identity → σ → ProbeReport × σ

namespace Cycle

/-- How many probes have ended when it is decided whether to launch the one with number `i`,
if probes take no time. The launcher runs ahead until all workers are taken and one more probe
is decided on; then it waits, and all probes that are under way end. -/
def endedBefore (workers i : Nat) : Nat := if i = 0 then 0 else workers * ((i - 1) / workers)

/-- Whether a cancellation after a number of probes is known when it is decided on the probe
with number `i`. -/
def cancelledAt (workers i : Nat) (cancelledAfter : Option Nat) : Bool :=
  cancelledAfter.any (· ≤ endedBefore workers i)

/-- Probes targets one after the other, from the one with number `i` on. -/
def probeFrom {σ : Type} (p : Prober σ) (workers : Nat) (i : Nat)
    (cancelledAfter : Option Nat) (c : Cycle) (world : σ) : List Identity → Cycle × σ
  | [] => (c, world)
  | id :: ids =>
    if cancelledAt workers i cancelledAfter then (c, world)
    else
      let (report, world) := p.probe id world
      let c := { c with launched := c.launched ++ [id] }
      let c := report.meanwhile.foldl step c
      let c := c.step (.probed id report.outcome report.now report.recordingSucceeds)
      let cancelledAfter :=
        cancelledAfter.or (if report.cancels then some (i + 1) else none)
      probeFrom p workers (i + 1) cancelledAfter c world ids

/-- A cycle whose probes take no time. It may have been cancelled beforehand. -/
def run {σ : Type} (p : Prober σ) (configuredWorkers : Nat) (cancelled listingSucceeds : Bool)
    (m : Monitor) (world : σ) : Cycle × σ :=
  let c := start m listingSucceeds
  let ids := c.monitor.registry.identities
  probeFrom p (effectiveWorkers configuredWorkers ids.length) 0
    (if cancelled then some 0 else none) c world ids

end Cycle

end Uptime

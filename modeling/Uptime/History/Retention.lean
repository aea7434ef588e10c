import Uptime.History.Store
import Uptime.Settings.Limits

/-!
# Retention

Records of checks are kept for a number of days. Expired ones are dropped when the service
starts and every hour from then on.

## Main definitions

* `RetentionPolicy`: for how many days records are kept.
* `RetentionPolicy.cutoff?`: the time before which they are expired.
* `RetentionPolicy.clean`: drops the expired records.
* `cleanupTimes`: when that is done.
-/

namespace Uptime

/-- For how long records are kept. -/
structure RetentionPolicy where
  /-- The number of days. Without a positive number nothing expires. -/
  days : Int := 5
  deriving DecidableEq, Repr, Inhabited

namespace RetentionPolicy

/-- The span for which records are kept, at most a century. -/
def horizon (p : RetentionPolicy) : Span := Span.ofDays (max 0 (min p.days maxRetentionDays))

/-- The time before which records are expired. There is none if nothing expires, or if the
calendar does not reach back so far. -/
def cutoff? (p : RetentionPolicy) (now : Instant) : Option Instant :=
  if p.days ≤ 0 then none else now.minus? p.horizon

/-- Drops the expired records and gives their number. -/
def clean (p : RetentionPolicy) (now : Instant) (s : Store) : Nat × Store :=
  match p.cutoff? now with
  | none => (0, s)
  | some cutoff => (s.log.countBefore cutoff, s.prune cutoff)

end RetentionPolicy

/-- The seconds between two cleanups. -/
def cleanupInterval : Nat := 3600

/-- The seconds at which expired records are dropped while the service runs for a number of
seconds. -/
def cleanupTimes (runSeconds : Nat) : List Nat :=
  (List.range (runSeconds / cleanupInterval + 1)).map (· * cleanupInterval)

end Uptime

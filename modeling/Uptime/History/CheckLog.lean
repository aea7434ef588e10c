import Uptime.History.Check

/-!
# The check log

The table of all recorded checks. Records are only added and pruned.

## Main definitions

* `CheckLog`: the table.
* `CheckLog.append`: records a result.
* `CheckLog.readSince`: the latest rows of a target.
* `CheckLog.prune`: drops old records.
-/

namespace Uptime

/-- The recorded checks. -/
structure CheckLog where
  /-- The records, in the order of their numbers. -/
  checks : List StoredCheck := []
  /-- The number of the next record. -/
  next : Nat := 1
  deriving DecidableEq, Repr, Inhabited

namespace CheckLog

/-- Records a result under the next number. -/
def append (log : CheckLog) (r : CheckResult) : CheckLog :=
  ⟨log.checks ++ [.ofResult log.next r], log.next + 1⟩

/-- A limit from here on is no limit: as a signed number of 64 bits it would be negative. -/
def unlimited : Nat := 9223372036854775808

/-- The first members of a list, as many as a limit allows. -/
def takeLimit {α : Type} (limit : Nat) (xs : List α) : List α :=
  if limit < unlimited then xs.take limit else xs

/-- The rows of a target from a time on, the oldest first. If there are more than the limit,
the latest count. -/
def readSince (log : CheckLog) (target : String) (cutoff : Instant) (limit : Nat) : List Row :=
  let found := log.checks.filter fun c => c.target = target ∧ cutoff.toMillis ≤ c.checkedAt
  ((takeLimit limit (found.mergeSort StoredCheck.newerFirst)).map StoredCheck.row).reverse

/-- Whether a record is older than a time. -/
def isBefore (cutoff : Instant) (c : StoredCheck) : Bool := c.checkedAt < cutoff.toMillis

/-- Drops the records before a time. -/
def prune (log : CheckLog) (cutoff : Instant) : CheckLog :=
  { log with checks := log.checks.filter fun c => !isBefore cutoff c }

/-- How many records lie before a time. -/
def countBefore (log : CheckLog) (cutoff : Instant) : Nat := log.checks.countP (isBefore cutoff)

@[simp] theorem checks_append (log : CheckLog) (r : CheckResult) :
    (log.append r).checks = log.checks ++ [.ofResult log.next r] := rfl

@[simp] theorem checks_prune (log : CheckLog) (cutoff : Instant) :
    (log.prune cutoff).checks = log.checks.filter fun c => !isBefore cutoff c := rfl

end CheckLog

end Uptime

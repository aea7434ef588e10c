import Uptime.History.StoredText
import Uptime.Status
import Uptime.Target.Basic
import Uptime.Text.Casing
import Uptime.Time.Instant

/-!
# Checks

The result of a check in three forms: as it is handed to the history, as it is stored, and as
it is read back. Stored times have milliseconds, and stored statuses and reasons are words.

## Main definitions

* `CheckResult`: a result as it is handed over.
* `StoredCheck`: a result as it is stored, with a number that grows with every result.
* `Row`: a result as it is read back.
-/

namespace Uptime

/-- The result of a check, as it is handed to the history. -/
structure CheckResult where
  /-- What was probed. -/
  identity : Identity
  /-- Whether it answered. -/
  up : Bool
  /-- Why the result is recorded. -/
  reason : CheckReason
  /-- When the result came in. -/
  checkedAt : Instant
  deriving DecidableEq, Repr

/-- The result of a check, as it is read back. -/
structure Row where
  /-- When the result came in. -/
  checkedAt : Instant
  /-- The status of the target. -/
  status : Status
  /-- The address that was probed. -/
  address : String
  /-- The port that was probed. -/
  port : UInt16
  /-- The word for the reason. -/
  reason : String
  deriving DecidableEq, Repr, Inhabited

/-- Address and port in one text. -/
def Row.endpoint (r : Row) : String := r.address ++ ":" ++ toString r.port.toNat

/-- The status that a stored word means; the case of ASCII letters does not count. -/
def Status.ofWord (word : String) : Status :=
  match Text.upperAscii word with
  | "UP" => .up
  | "DOWN" => .down
  | _ => .unknown

/-- A status that a probe can bring about is read back. -/
theorem Status.ofWord_word_ofProbe (up : Bool) : ofWord (ofProbe up).word = ofProbe up := by
  cases up <;> rfl

/-- The result of a check, as it is stored. -/
structure StoredCheck where
  /-- The number of the record. -/
  number : Nat
  /-- When the result came in, in milliseconds. -/
  checkedAt : Int
  /-- The name of the target. -/
  target : String
  /-- The address that was probed. -/
  address : String
  /-- The port that was probed. -/
  port : UInt16
  /-- The word for the status. -/
  status : String
  /-- The word for the reason. -/
  reason : String
  deriving DecidableEq, Repr

namespace StoredCheck

/-- The record of a result. -/
def ofResult (number : Nat) (r : CheckResult) : StoredCheck where
  number := number
  checkedAt := r.checkedAt.toMillis
  target := r.identity.name
  address := r.identity.address
  port := r.identity.port
  status := (Status.ofProbe r.up).word
  reason := r.reason.word

/-- The row that a record is read back as. -/
def row (c : StoredCheck) : Row where
  checkedAt := .ofMillis c.checkedAt
  status := .ofWord (StoredText.read c.status)
  address := StoredText.read c.address
  port := c.port
  reason := Text.upperAscii (StoredText.read c.reason)

/-- The order of reading: the latest first, and of equal times the one recorded last. -/
def newerFirst (a b : StoredCheck) : Bool :=
  b.checkedAt < a.checkedAt || (a.checkedAt = b.checkedAt && b.number ≤ a.number)

end StoredCheck

end Uptime

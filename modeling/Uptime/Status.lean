/-!
# Status

What is known about a target, and why a check was recorded.

## Main definitions

* `Status`: unknown, up or down.
* `CheckReason`: first check, change or repeated result.
-/

namespace Uptime

/-- What is known about a target. -/
inductive Status
  /-- No probe has come back yet. -/
  | unknown
  /-- The last probe connected. -/
  | up
  /-- The last probe failed. -/
  | down
  deriving DecidableEq, Repr, Inhabited

namespace Status

/-- The status after a probe. -/
def ofProbe (up : Bool) : Status := if up then .up else .down

/-- A probe makes the status known. -/
theorem ofProbe_ne_unknown (up : Bool) : ofProbe up ≠ unknown := by
  cases up <;> decide

theorem ofProbe_inj {up before : Bool} : ofProbe up = ofProbe before ↔ up = before := by
  cases up <;> cases before <;> decide

/-- A status that is known is that of a probe. -/
theorem eq_unknown_or_exists_ofProbe (status : Status) :
    status = .unknown ∨ ∃ before, status = .ofProbe before := by
  cases status with
  | unknown => exact .inl rfl
  | up => exact .inr ⟨true, rfl⟩
  | down => exact .inr ⟨false, rfl⟩

/-- The word for a status. -/
def word : Status → String
  | unknown => "UNKNOWN"
  | up => "UP"
  | down => "DOWN"

end Status

/-- Why a check was recorded. -/
inductive CheckReason
  /-- It was the first check of the target. -/
  | first
  /-- Its result differs from the one before. -/
  | change
  /-- It repeats the result before. -/
  | poll
  deriving DecidableEq, Repr, Inhabited

/-- The word for a reason. -/
def CheckReason.word : CheckReason → String
  | first => "INIT"
  | change => "CHANGE"
  | poll => "POLL"

end Uptime

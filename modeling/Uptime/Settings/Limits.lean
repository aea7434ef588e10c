/-!
# Limits of the settings

Three settings must lie between bounds: how often the targets are checked, how long a check
may take, and how long its result is kept.

## Main definitions

* `LimitError`, `LimitError.message`: a setting out of its bounds.
* `checkInterval`, `checkTimeout`, `checkRetention`: the three checks.
-/

namespace Uptime

/-- A setting that is out of its bounds. -/
inductive LimitError
  /-- The seconds between two checks. -/
  | interval (seconds : Nat)
  /-- The seconds that a check may take. -/
  | timeout (seconds : Nat)
  /-- The days for which results are kept. -/
  | retention (days : Int)
  deriving DecidableEq, Repr

/-- The most seconds between two checks: a day. -/
def maxInterval : Nat := 86400

/-- The most seconds that a check may take. -/
def maxTimeout : Nat := 300

/-- The most days for which results are kept: a century. -/
def maxRetentionDays : Int := 36500

/-- The text of a limit error. -/
def LimitError.message : LimitError → String
  | interval seconds =>
    "interval must be between 1 and " ++ toString maxInterval ++ " seconds, got "
      ++ toString seconds
  | timeout seconds =>
    "timeout must be between 1 and " ++ toString maxTimeout ++ " seconds, got "
      ++ toString seconds
  | retention days =>
    "retention must be between 0 and " ++ toString maxRetentionDays ++ " days, got "
      ++ toString days

/-- Checks the seconds between two checks. -/
def checkInterval (seconds : Nat) : Except LimitError Unit :=
  if 1 ≤ seconds ∧ seconds ≤ maxInterval then .ok () else .error (.interval seconds)

/-- Checks the seconds that a check may take. -/
def checkTimeout (seconds : Nat) : Except LimitError Unit :=
  if 1 ≤ seconds ∧ seconds ≤ maxTimeout then .ok () else .error (.timeout seconds)

/-- Checks the days for which results are kept; none means for ever. -/
def checkRetention (days : Int) : Except LimitError Unit :=
  if 0 ≤ days ∧ days ≤ maxRetentionDays then .ok () else .error (.retention days)

end Uptime

/-!
# Probes

A probe tries to connect to a target within some seconds.

## Main definitions

* `ProbeFailure`: why a target is down.
* `ProbeFailure.message`: the text of a reason.
-/

namespace Uptime

/-- Why a target is down. -/
inductive ProbeFailure
  /-- There was no connection within some seconds. -/
  | timedOut (seconds : Nat)
  /-- The connection failed. -/
  | failed (cause : String)
  deriving DecidableEq, Repr

/-- The text of a reason. -/
def ProbeFailure.message : ProbeFailure → String
  | timedOut seconds => "TCP connection timeout after " ++ toString seconds ++ "s"
  | failed cause => "TCP connection failed: " ++ cause

end Uptime

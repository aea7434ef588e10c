import Uptime.NameOrder
import Uptime.Registry
import Uptime.Text.Markup

/-!
# Replies

The texts with which commands are answered, except those about the check log.

## Main definitions

* `Reply.help`, `Reply.logsUsage`, `Reply.notFound`, `Reply.noRows`: fixed texts.
* `Reply.list`: the targets of a snapshot.
* `Reply.status`: the targets of a snapshot and what is known about each.
-/

namespace Uptime.Reply

open Text

/-- The commands that are understood. -/
def help : String :=
  "<b>Port Tracker Bot</b>\n/list - tracks\n/status - current states\n"
    ++ "/logs &lt;track&gt; - last 7 days"

/-- How to ask for the check log of a target. -/
def logsUsage : String := "Usage: /logs &lt;track_name&gt;"

/-- The target that was asked for is not being watched. -/
def notFound : String := "Track not found. Use /list."

/-- The target that was asked for has no recent records. -/
def noRows : String := "No log rows for last 7 days."

/-- There are no targets. -/
def noTargets : String := "No tracks configured."

/-- Address and port of a target, as code. -/
def endpoint (t : TargetState) : String :=
  code (escape t.identity.address ++ ":" ++ toString t.identity.port.toNat)

/-- The line about a target in the list. -/
def listEntry (t : TargetState) (position : Nat) : String :=
  toString position ++ ". " ++ bold (escape t.name) ++ " - " ++ endpoint t ++ "\n"

/-- The paragraph about a target in the status report. -/
def statusEntry (t : TargetState) (position : Nat) : String :=
  toString position ++ ". " ++ bold (escape t.name) ++ "\nendpoint: " ++ endpoint t
    ++ "\nstate: " ++ bold t.status.word
    ++ "\nchanged: " ++ code (Instant.textOrDash t.lastChanged)
    ++ "\nchecked: " ++ code (Instant.textOrDash t.lastChecked) ++ "\n\n"

/-- The entries of the targets of a snapshot, in the order of names and numbered from 1. -/
def entries (entry : TargetState → Nat → String) (s : Snapshot) : List String :=
  (sortByName TargetState.name s.targets).zipIdx.map fun (t, i) => entry t (i + 1)

/-- The targets of a snapshot. -/
def list (s : Snapshot) : String :=
  if s.targets = [] then noTargets
  else bold "Configured tracks" ++ "\n" ++ String.join (entries listEntry s)

/-- The totals of a snapshot. -/
def totals (s : Snapshot) : String :=
  "tracks: " ++ toString s.total ++ " | up: " ++ toString s.up ++ " | down: " ++ toString s.down
    ++ " | unknown: " ++ toString s.unknown

/-- The targets of a snapshot and what is known about each. -/
def status (s : Snapshot) : String :=
  if s.targets = [] then noTargets
  else
    bold "Status snapshot (UTC)" ++ "\n" ++ totals s ++ "\n\n"
      ++ String.join (entries statusEntry s)

end Uptime.Reply

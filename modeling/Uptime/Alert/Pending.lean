import Uptime.Alert.Event
import Uptime.Channel
import Uptime.NameMap

/-!
# Pending outage messages

A message about an outage stays pending as long as it may still be edited into a message
about the recovery. Messages about one target and messages about several are kept apart.

## Main definitions

* `PendingSingle`, `PendingGroup`: a pending message about one target, and about several.
* `Pending`: all pending messages.
* `PendingGroup.Answers`: whether recoveries end the outages of a group, all of them and in
  time.
* `Pending.supersede`: what remains of the pending groups after new outages.
-/

namespace Uptime

/-- A message about the outage of one target. -/
structure PendingSingle where
  /-- The number of the message. -/
  messageId : MessageId
  /-- When the outage was found. -/
  downAt : Instant
  /-- How it was found. -/
  reason : AlertReason
  /-- The address of the target. -/
  address : String
  /-- Its port. -/
  port : UInt16
  deriving DecidableEq, Repr, Inhabited

/-- A message about the outages of several targets. -/
structure PendingGroup where
  /-- The number of the message. -/
  messageId : MessageId
  /-- How the outages were found. -/
  reason : AlertReason
  /-- When the first of them, in the order of names, was found. -/
  downAt : Instant
  /-- The outages by the names of their targets. -/
  targets : NameMap Event
  deriving DecidableEq, Repr, Inhabited

namespace PendingSingle

/-- The pending message about one event. -/
def ofEvent (id : MessageId) (e : Event) : PendingSingle :=
  ⟨id, e.occurred, e.reason, e.address, e.port⟩

end PendingSingle

/-- Events by the names of their targets; of several with one name the last counts. -/
def eventsByTarget (events : List Event) : NameMap Event :=
  events.foldl (fun m e => m.insert e.target e) []

namespace PendingGroup

/-- The recoveries answer a group: they are as many as its members, each is about a member,
and each lies within the window after the time of the group. -/
def Answers (recoveries : List Event) (window : Span) (g : PendingGroup) : Prop :=
  g.targets.length = recoveries.length ∧
    ∀ e ∈ recoveries, g.targets.contains e.target = true ∧ e.occurred - g.downAt ≤ window

instance (recoveries : List Event) (window : Span) (g : PendingGroup) :
    Decidable (g.Answers recoveries window) :=
  inferInstanceAs (Decidable (_ ∧ _))

/-- When the outage of a member was found; the time of the group for anything else. -/
def downAtOf (g : PendingGroup) (target : String) : Instant :=
  match g.targets.find? target with
  | some e => e.occurred
  | none => g.downAt

end PendingGroup

/-- All pending messages. -/
structure Pending where
  /-- The messages about one target, by its name. -/
  singles : NameMap PendingSingle := []
  /-- The messages about several targets, the oldest first. -/
  groups : List PendingGroup := []
  deriving DecidableEq, Repr, Inhabited

namespace Pending

/-- Forgets the groups that cannot be answered any more once new outages have been seen at
`now`: those older than the window, and those with a member that is down again and must
therefore have come back in the meantime. -/
def supersede (p : Pending) (outages : List Event) (now : Instant) (window : Span) : Pending :=
  { p with
    groups := p.groups.filter fun g =>
      now - g.downAt ≤ window ∧ ∀ e ∈ outages, g.targets.contains e.target = false }

/-- Records a delivered message about outages, which are in the order of names. -/
def record (p : Pending) (id : MessageId) : List Event → Pending
  | [] => p
  | [e] => { p with singles := p.singles.insert e.target (.ofEvent id e) }
  | e :: es =>
    { p with
      groups := p.groups ++ [⟨id, e.reason, e.occurred, eventsByTarget (e :: es)⟩] }

end Pending

end Uptime

import Uptime.Alert.Pending
import Uptime.NameOrder
import Uptime.Text.Markup

/-!
# Alert messages

The texts of alert messages.

## Main definitions

* `Alert.targetLine`: the line about one target.
* `Alert.groupText`: a new message about the events of one category.
* `Alert.recoveredText`: the edited message about one target that came back.
* `Alert.groupRecoveredText`: the edited message about a group that came back.
-/

namespace Uptime.Alert

open Text

/-- A line with a label and a value. -/
def field (label value : String) : String := label ++ ": " ++ code value ++ "\n"

/-- The line about the target of an event. -/
def targetLine (e : Event) : String :=
  "- " ++ code (escape e.target) ++ " ("
    ++ code (escape e.address ++ ":" ++ toString e.port.toNat) ++ ")"

/-- A heading, with the number of events unless it is one. -/
def heading (title : String) (count : Nat) : String :=
  bold (if count = 1 then title else title ++ " x" ++ toString count) ++ "\n"

/-- A new message about events of one category, in the order of names. Its time is that of
the first event. -/
def groupText : List Event → String
  | [] => ""
  | e :: es =>
    heading e.kind.word (es.length + 1) ++ field "reason" e.reason.word
      ++ field "time_utc" e.occurred.text ++ "targets:"
      ++ String.join ((e :: es).map fun e => "\n" ++ targetLine e)

/-- The message about an outage that ended within the window. -/
def recoveredText (e : Event) (p : PendingSingle) : String :=
  bold "DOWN -> RECOVERED" ++ "\n" ++ field "reason" e.reason.word
    ++ field "down_at_utc" p.downAt.text ++ field "recovered_at_utc" e.occurred.text
    ++ field "downtime" (e.occurred - p.downAt).short ++ "target:\n" ++ targetLine e

/-- The lines about a member of a group that came back. Its downtime counts from its own
outage. -/
def memberText (g : PendingGroup) (e : Event) : String :=
  "\n" ++ targetLine e ++ "\n" ++ field "recovered_at_utc" e.occurred.text
    ++ "downtime: " ++ code (e.occurred - g.downAtOf e.target).short

/-- The message about a group of outages that ended within the window. Its time is that of
the last recovery. -/
def groupRecoveredText (g : PendingGroup) : List Event → String
  | [] => ""
  | e :: es =>
    let last := es.foldl (fun t e => Instant.later t e.occurred) e.occurred
    bold ("DOWN -> RECOVERED x" ++ toString (es.length + 1)) ++ "\n"
      ++ field "reason" e.reason.word ++ field "time_utc" last.text ++ "targets:"
      ++ String.join ((sortByName Event.target (e :: es)).map (memberText g))

end Uptime.Alert

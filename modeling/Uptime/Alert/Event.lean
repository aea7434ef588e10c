import Uptime.Target.Basic
import Uptime.Time.Instant

/-!
# Alert events

An event says that a target went down or came back.

## Main definitions

* `AlertKind`, `AlertReason`: the two coordinates of an event.
* `Event`: an event.
* `Event.category`: both coordinates; events of one category share a message.
* `Category.all`: the categories in the order of their messages.
-/

namespace Uptime

/-- What happened. -/
inductive AlertKind
  /-- The target does not answer. -/
  | down
  /-- The target answers again. -/
  | recovered
  deriving DecidableEq, Repr, Inhabited

/-- The word for a kind. -/
def AlertKind.word : AlertKind → String
  | down => "DOWN"
  | recovered => "RECOVERED"

/-- How it was found out. -/
inductive AlertReason
  /-- By the first check of the target. -/
  | initialCheck
  /-- By a check whose result differs from the one before. -/
  | stateChange
  deriving DecidableEq, Repr, Inhabited

/-- The word for a reason. -/
def AlertReason.word : AlertReason → String
  | initialCheck => "initial-check"
  | stateChange => "state-change"

/-- A target went down or came back. -/
structure Event where
  /-- What happened. -/
  kind : AlertKind
  /-- The name of the target. -/
  target : String
  /-- Its address. -/
  address : String
  /-- Its port. -/
  port : UInt16
  /-- How it was found out. -/
  reason : AlertReason
  /-- When it was found out. -/
  occurred : Instant
  deriving DecidableEq, Repr, Inhabited

/-- Kind and reason of an event. -/
structure Category where
  /-- What happened. -/
  kind : AlertKind
  /-- How it was found out. -/
  reason : AlertReason
  deriving DecidableEq, Repr, Inhabited

/-- The categories in the order of their messages: outages first. -/
def Category.all : List Category :=
  [⟨.down, .initialCheck⟩, ⟨.down, .stateChange⟩,
   ⟨.recovered, .initialCheck⟩, ⟨.recovered, .stateChange⟩]

/-- An outage of a target that was up. Only its message may be edited later. -/
def Category.outage : Category := ⟨.down, .stateChange⟩

/-- The end of an outage. -/
def Category.recovery : Category := ⟨.recovered, .stateChange⟩

/-- Every category has its place. -/
theorem Category.mem_all (c : Category) : c ∈ Category.all := by
  rcases c with ⟨_ | _, _ | _⟩ <;> decide

/-- Kind and reason of an event. -/
def Event.category (e : Event) : Category := ⟨e.kind, e.reason⟩

end Uptime

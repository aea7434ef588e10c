import Uptime.Channel

/-!
# Scripted channels

A channel that follows a script: the outcomes of the coming calls are written down beforehand,
and calls beyond the script succeed.

## Main definitions

* `SendOutcome`: what becomes of a message.
* `Script`: the outcomes of the coming calls.
* `Script.channel`: the channel that follows it.
-/

namespace Uptime

/-- What becomes of a message. -/
inductive SendOutcome
  /-- It is delivered as one message. -/
  | delivered
  /-- It is delivered in parts. -/
  | split
  /-- It is lost. -/
  | lost
  deriving DecidableEq, Repr, Inhabited

/-- The outcomes of the coming calls. -/
structure Script where
  /-- What becomes of the coming messages. -/
  sends : List SendOutcome := []
  /-- Whether the coming edits succeed. -/
  edits : List Bool := []
  /-- The number of the next message that gets one. -/
  nextId : MessageId := 100
  deriving DecidableEq, Repr, Inhabited

namespace Script

/-- What becomes of the next message. -/
def takeSend (s : Script) : SendOutcome × Script :=
  match s.sends with
  | [] => (.delivered, s)
  | outcome :: sends => (outcome, { s with sends })

/-- Whether the next edit succeeds. -/
def takeEdit (s : Script) : Bool × Script :=
  match s.edits with
  | [] => (true, s)
  | ok :: edits => (ok, { s with edits })

/-- Delivers a message whose number is not asked for. -/
def send (s : Script) : Bool × Script :=
  let (outcome, s) := s.takeSend
  (outcome ≠ .lost, s)

/-- Delivers a message whose number is asked for. -/
def sendTracked (s : Script) : Receipt × Script :=
  match s.takeSend with
  | (.delivered, s) => (.tracked s.nextId, { s with nextId := s.nextId + 1 })
  | (.split, s) => (.untracked, s)
  | (.lost, s) => (.failed, s)

/-- The channel that follows a script. -/
def channel : Channel Script where
  send _ s := s.send
  sendTracked _ s := s.sendTracked
  edit _ _ s := s.takeEdit
  sendTo _ _ s := s.send

end Script

end Uptime

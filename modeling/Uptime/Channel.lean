/-!
# Chat channels

A channel delivers messages to a chat. It may fail, and what it does may depend on everything
that it did before; so a channel is a machine with a state of its own, and nothing is assumed
about it.

## Main definitions

* `Channel`: the operations.
* `Receipt`: the answer to a message that may have to be edited later.
* `Call`: a call of an operation, with its answer.
-/

namespace Uptime

/-- The number by which a delivered message can be edited. -/
abbrev MessageId := Int

/-- The number of a chat. -/
abbrev ChatId := Int

/-- The answer to a message that may have to be edited later. -/
inductive Receipt
  /-- The message was not delivered, or not all of it. -/
  | failed
  /-- It was delivered in several parts, so that there is no one message to edit. -/
  | untracked
  /-- It was delivered under this number. -/
  | tracked (id : MessageId)
  deriving DecidableEq, Repr, Inhabited

/-- The number of a delivered message. -/
def Receipt.id? : Receipt → Option MessageId
  | tracked id => some id
  | _ => none

/-- Whether a message was delivered. -/
def Receipt.delivered : Receipt → Bool
  | failed => false
  | _ => true

/-- A chat channel with states of type `σ`. -/
structure Channel (σ : Type) where
  /-- Sends a text to the default chat; tells whether it was delivered. -/
  send : String → σ → Bool × σ
  /-- Sends a text to the default chat and asks for its number. -/
  sendTracked : String → σ → Receipt × σ
  /-- Replaces the text of a message in the default chat; tells whether it succeeded. -/
  edit : MessageId → String → σ → Bool × σ
  /-- Sends a text to some chat; tells whether it was delivered. -/
  sendTo : ChatId → String → σ → Bool × σ

/-- One call of a channel, with its answer. -/
inductive Call
  /-- A message to the default chat. -/
  | send (text : String) (ok : Bool)
  /-- A message to the default chat whose number was asked for. -/
  | sendTracked (text : String) (receipt : Receipt)
  /-- An edit in the default chat. -/
  | edit (id : MessageId) (text : String) (ok : Bool)
  /-- A message to some chat. -/
  | sendTo (chat : ChatId) (text : String) (ok : Bool)
  deriving DecidableEq, Repr

namespace Call

/-- Whether a call is an edit. -/
def isEdit : Call → Bool
  | edit .. => true
  | _ => false

/-- Whether a call did what it was asked for. -/
def succeeded : Call → Bool
  | send _ ok => ok
  | sendTracked _ receipt => receipt.delivered
  | edit _ _ ok => ok
  | sendTo _ _ ok => ok

/-- The text of a call. -/
def text : Call → String
  | send text _ => text
  | sendTracked text _ => text
  | edit _ text _ => text
  | sendTo _ text _ => text

end Call

end Uptime

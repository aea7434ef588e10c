import Uptime.Alert.Message

/-!
# Consolidation of alerts

The events of one check cycle are told in as few messages as possible. A recovery soon after
its outage is told by editing the message about the outage; all other events of one category
share a new message.

## Main definitions

* `Notice`: a call of the channel, with the events it tells.
* `Consolidation`: the state in the middle of a batch.
* `Consolidation.resolve`: tries to tell an event by editing the message about its target.
* `Consolidation.resolveGroup`: tries to tell all recoveries that are left by one edit.
* `Consolidation.announce`: tells the rest of a category by a new message.
* `deliver`: the whole batch.
-/

namespace Uptime

/-- A call of the channel, with the events that it tells. -/
structure Notice where
  /-- The call and its answer. -/
  call : Call
  /-- The events told by it. -/
  events : List Event
  deriving DecidableEq, Repr

/-- How far a batch of events has been told. -/
structure Consolidation (σ : Type) where
  /-- The state of the channel. -/
  channel : σ
  /-- The messages that may still be edited. -/
  pending : Pending
  /-- The calls so far. -/
  notices : List Notice := []
  /-- Recoveries that no edit of a message about one target has told. -/
  leftover : List Event := []
  /-- Events that need a new message. -/
  remaining : List Event := []

/-- The window within which a recovery is told by an edit, if none that can be used is
configured. -/
def defaultRecoveryWindow : Span := Span.ofSeconds 30

/-- The window that is in force for a configured one: spans beyond the longest are replaced
by the default. -/
def recoveryWindow (configured : Span) : Span :=
  if configured ≤ Span.longest then configured else defaultRecoveryWindow

namespace Consolidation

variable {σ : Type}

/-- Adds a call to the notices. -/
def note (c : Consolidation σ) (call : Call) (events : List Event) : Consolidation σ :=
  { c with notices := c.notices ++ [⟨call, events⟩] }

/-- Leaves a recovery to the group edit. -/
def leave (c : Consolidation σ) (e : Event) : Consolidation σ :=
  { c with leftover := c.leftover ++ [e] }

/-- Takes one event of the batch. A recovery uses up the pending message about its target:
within the window the message is edited, otherwise, or if the edit fails, the recovery is
left over. -/
def resolve (ch : Channel σ) (window : Span) (c : Consolidation σ) (e : Event) :
    Consolidation σ :=
  if e.category = .recovery then
    match c.pending.singles.find? e.target with
    | none => c.leave e
    | some p =>
      let c := { c with pending.singles := c.pending.singles.erase e.target }
      if e.occurred - p.downAt ≤ window then
        let text := Alert.recoveredText e p
        let (ok, channel) := ch.edit p.messageId text c.channel
        let c := { c with channel }.note (.edit p.messageId text ok) [e]
        if ok then c else c.leave e
      else c.leave e
  else { c with remaining := c.remaining ++ [e] }

/-- Takes the recoveries that are left over. The oldest group that they answer is used up and
its message edited; if there is none, or if the edit fails, they need a new message. -/
def resolveGroup (ch : Channel σ) (window : Span) (c : Consolidation σ) : Consolidation σ :=
  if c.leftover = [] then c
  else
    match c.pending.groups.findIdx? fun g => g.Answers c.leftover window with
    | none => { c with remaining := c.remaining ++ c.leftover, leftover := [] }
    | some i =>
      match c.pending.groups[i]? with
      | none => { c with remaining := c.remaining ++ c.leftover, leftover := [] }
      | some g =>
        let text := Alert.groupRecoveredText g c.leftover
        let (ok, channel) := ch.edit g.messageId text c.channel
        let told :=
          { c with channel, pending.groups := c.pending.groups.eraseIdx i }.note
            (.edit g.messageId text ok) c.leftover
        if ok then { told with leftover := [] }
        else { told with remaining := c.remaining ++ c.leftover, leftover := [] }

/-- The time of the last of some events. -/
def lastOccurred (e : Event) (es : List Event) : Instant :=
  es.foldl (fun t e => Instant.later t e.occurred) e.occurred

/-- Tells the remaining events of a category by a new message. The message about outages is
the only one that becomes pending; whether or not it is delivered, it supersedes the older
groups. -/
def announce (ch : Channel σ) (window : Span) (c : Consolidation σ) (category : Category) :
    Consolidation σ :=
  match sortByName Event.target (c.remaining.filter fun e => e.category = category) with
  | [] => c
  | e :: es =>
    let text := Alert.groupText (e :: es)
    if category = .outage then
      let pending := c.pending.supersede (e :: es) (lastOccurred e es) window
      let (receipt, channel) := ch.sendTracked text c.channel
      let pending :=
        match receipt with
        | .tracked id => pending.record id (e :: es)
        | _ => pending
      { c with channel, pending }.note (.sendTracked text receipt) (e :: es)
    else
      let (ok, channel) := ch.send text c.channel
      { c with channel }.note (.send text ok) (e :: es)

end Consolidation

/-- Tells a batch of events: edits first, then the new messages in the order of their
categories. -/
def deliver {σ : Type} (ch : Channel σ) (window : Span) (channel : σ) (pending : Pending)
    (events : List Event) : Consolidation σ :=
  let edited := events.foldl (Consolidation.resolve ch window) { channel, pending }
  Category.all.foldl (Consolidation.announce ch window) (edited.resolveGroup ch window)

end Uptime

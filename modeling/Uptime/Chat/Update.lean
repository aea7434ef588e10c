import Uptime.Chat.Handler
import Uptime.Json.Basic

/-!
# Updates

The chat service hands out what happened in batches of numbered updates. The number of the
next update to ask for, the offset, is what keeps a batch from being handed out again.

## Main definitions

* `Message`, `Update`: an update, reduced to what commands need.
* `Update.ofJson?`, `Update.batchOfJson?`: the decoding of updates.
* `nextOffset`: the offset after a batch.
* `Conversation.handleUpdates`: takes a batch.
* `Polling`: the polls so far.
-/

namespace Uptime

/-- A message in a chat. -/
structure Message where
  /-- The chat. -/
  chat : ChatId
  /-- The text; other messages have none. -/
  text : Option String
  deriving DecidableEq, Repr

/-- Something that happened. -/
structure Update where
  /-- Its number. -/
  number : Int
  /-- The message, if it is one. -/
  message : Option Message
  deriving DecidableEq, Repr

/-! ### Decoding

A record may be written as an object or as the array of its fields. -/

/-- The chat of a message. -/
def decodeChat? : Json → Option ChatId
  | .object members => do (← Json.member? members "id").int64?
  | .array [id] => id.int64?
  | _ => none

/-- A message. -/
def Message.ofJson? : Json → Option Message
  | .object members => do
    let chat ← decodeChat? (← Json.member? members "chat")
    let text ← (← Json.optionalMember? members "text").nullable? Json.string?
    return ⟨chat, text⟩
  | .array [chat, text] => do return ⟨← decodeChat? chat, ← text.nullable? Json.string?⟩
  | _ => none

namespace Update

/-- An update. -/
def ofJson? : Json → Option Update
  | .object members => do
    let number ← (← Json.member? members "update_id").int64?
    let message ← (← Json.optionalMember? members "message").nullable? Message.ofJson?
    return ⟨number, message⟩
  | .array [number, message] => do
    return ⟨← number.int64?, ← message.nullable? Message.ofJson?⟩
  | _ => none

/-- A batch of updates. -/
def batchOfJson? : Json → Option (List Update)
  | .array items => items.mapM ofJson?
  | _ => none

/-- The chat and the text of an update that has a text. -/
def text? (u : Update) : Option (ChatId × String) := do
  let message ← u.message
  let text ← message.text
  if text = "" then none else some (message.chat, text)

end Update

/-! ### Handling -/

/-- The offset after a batch: it lies beyond every number of the batch and never goes back. -/
def nextOffset (offset : Int) (updates : List Update) : Int :=
  updates.foldl (fun offset u => max offset (u.number + 1)) offset

namespace Conversation

variable {σ τ : Type}

/-- Takes one update. -/
def handleUpdate (src : Source σ) (ch : Channel τ) (allowed : ChatId) (c : Conversation σ τ)
    (u : Update) : Conversation σ τ :=
  match u.text? with
  | none => c
  | some (chat, text) => c.handle src ch allowed chat text

/-- Takes a batch of updates, in its order. -/
def handleUpdates (src : Source σ) (ch : Channel τ) (allowed : ChatId) (c : Conversation σ τ)
    (updates : List Update) : Conversation σ τ :=
  updates.foldl (handleUpdate src ch allowed) c

end Conversation

/-- The polls so far. -/
structure Polling (σ τ : Type) where
  /-- The number of the next update to ask for. -/
  offset : Int := 0
  /-- What was asked and answered. -/
  conversation : Conversation σ τ

namespace Polling

variable {σ τ : Type}

/-- Takes the answer to a poll. A poll that fails, or whose answer cannot be read, leaves
everything as it was. -/
def take (src : Source σ) (ch : Channel τ) (allowed : ChatId) (p : Polling σ τ) :
    Option (List Update) → Polling σ τ
  | none => p
  | some updates =>
    ⟨nextOffset p.offset updates, p.conversation.handleUpdates src ch allowed updates⟩

end Polling

end Uptime

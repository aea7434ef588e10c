import Uptime.Channel
import Uptime.Chat.Command
import Uptime.Chat.LogReply
import Uptime.Chat.Reply

/-!
# Answering commands

Commands are answered in one chat only. What a command asks for is decided by its text alone;
the answer then depends on what the watched targets and the check log say.

## Main definitions

* `Request`: what a command asks for.
* `Source`: the state that can be asked for.
* `Conversation`: the queries and calls so far.
* `Conversation.handle`: takes one message.
-/

namespace Uptime

/-- What a command asks for. -/
inductive Request
  /-- The commands. -/
  | help
  /-- The targets. -/
  | list
  /-- The targets and what is known about each. -/
  | status
  /-- The check log, but of no target. -/
  | logsUsage
  /-- The check log of a target. -/
  | logs (target : String)
  deriving DecidableEq, Repr

namespace Request

/-- What a command asks for; nothing if it is unknown. -/
def ofCommand? (c : Command) : Option Request :=
  match c.word with
  | "start" => some help
  | "help" => some help
  | "list" => some list
  | "status" => some status
  | "logs" =>
    match c.argument with
    | none => some logsUsage
    | some target => some (logs target)
  | _ => none

/-- What a message in a chat asks for. Messages from any chat but the allowed one ask for
nothing. -/
def ofMessage? (allowed chat : ChatId) (text : String) : Option Request :=
  if chat = allowed then (Command.ofText? text).bind ofCommand? else none

end Request

/-- A question about the watched targets or the check log. -/
inductive Query
  /-- The present states. -/
  | snapshot
  /-- The latest rows of a target. -/
  | logs (target : String) (days limit : Nat)
  deriving DecidableEq, Repr

/-- What can be asked. It may change at any time, so it is a machine with a state. -/
structure Source (σ : Type) where
  /-- The present states. -/
  snapshot : σ → Snapshot × σ
  /-- The latest rows of a target; none if it is not being watched. -/
  logs : (target : String) → (days limit : Nat) → σ → Option (List Row) × σ

/-- The days of the check log that a command shows. -/
def logDays : Nat := 7

/-- The most rows that a command shows. -/
def logLimit : Nat := 120

/-- The replies about the check log of a target. -/
def logReplies (target : String) : Option (List Row) → List String
  | none => [Reply.notFound]
  | some [] => [Reply.noRows]
  | some rows => LogReply.render (LogReply.header target rows) rows

/-- The queries and calls of a conversation so far. -/
structure Conversation (σ τ : Type) where
  /-- The state that can be asked for. -/
  source : σ
  /-- The state of the channel. -/
  channel : τ
  /-- The queries, in order. -/
  queries : List Query := []
  /-- The calls of the channel, in order. -/
  calls : List Call := []

namespace Conversation

variable {σ τ : Type}

/-- Sends a reply. -/
def reply (ch : Channel τ) (chat : ChatId) (c : Conversation σ τ) (text : String) :
    Conversation σ τ :=
  let (ok, channel) := ch.sendTo chat text c.channel
  { c with channel, calls := c.calls ++ [.sendTo chat text ok] }

/-- Sends replies in order; one that fails does not keep back the others. -/
def replyAll (ch : Channel τ) (chat : ChatId) (c : Conversation σ τ) (texts : List String) :
    Conversation σ τ :=
  texts.foldl (reply ch chat) c

/-- Asks what a request needs, and gives the replies. -/
def ask (src : Source σ) (c : Conversation σ τ) : Request → List String × Conversation σ τ
  | .help => ([Reply.help], c)
  | .logsUsage => ([Reply.logsUsage], c)
  | .list =>
    let (snapshot, source) := src.snapshot c.source
    ([Reply.list snapshot], { c with source, queries := c.queries ++ [.snapshot] })
  | .status =>
    let (snapshot, source) := src.snapshot c.source
    ([Reply.status snapshot], { c with source, queries := c.queries ++ [.snapshot] })
  | .logs target =>
    let (rows, source) := src.logs target logDays logLimit c.source
    (logReplies target rows,
      { c with source, queries := c.queries ++ [.logs target logDays logLimit] })

/-- Takes one message. -/
def handle (src : Source σ) (ch : Channel τ) (allowed : ChatId) (c : Conversation σ τ)
    (chat : ChatId) (text : String) : Conversation σ τ :=
  match Request.ofMessage? allowed chat text with
  | none => c
  | some request =>
    let (texts, c) := c.ask src request
    c.replyAll ch chat texts

end Conversation

end Uptime

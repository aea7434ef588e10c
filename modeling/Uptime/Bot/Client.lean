import Uptime.Bot.Answer
import Uptime.Bot.Request
import Uptime.Chat.Update
import Uptime.Settings.Basic
import Uptime.Text.Chunks
import Uptime.Url.Reader

/-!
# The bot

The bot speaks to its chat through a service on the web. A text that is too long for one message
is sent in parts, in order, until one of them is not accepted. Only a text that is sent as one
message can be edited later.

## Main definitions

* `Network`: the way to the service, which may fail.
* `Bot`: who speaks.
* `Bot.send`, `Bot.sendTracked`, `Bot.edit`, `Bot.sendTo`: what it can do.
* `Bot.channel`: the bot as a channel.
* `Bot.fetch`, `Bot.poll`: the updates.
-/

namespace Uptime

/-- The way to the service, a machine with a state. -/
structure Network (σ : Type) where
  /-- Posts a request to a path of the service, and gives the text of the answer. -/
  post : String → BotRequest → σ → Option String × σ

/-- The most bytes of a message. -/
def maxMessageBytes : Nat := 4000

/-- The seconds to wait for updates. -/
def pollSeconds : Nat := 30

/-- A bot. -/
structure Bot where
  /-- The address of the service, a directory. -/
  base : Url
  /-- Its token. -/
  token : String
  /-- Its chat. -/
  chat : ChatId
  deriving DecidableEq, Repr

namespace Bot

/-- The bot with a service, a token and a chat. -/
def connect (base token : String) (chat : ChatId) : Except UrlError Bot :=
  (Url.ofText base).map fun url => ⟨url.asDirectory, token, chat⟩

/-- The path of a method. -/
def target (b : Bot) (method : String) : Except UrlError String :=
  b.base.below ("./bot" ++ b.token ++ "/" ++ method)

/-- The parts in which a text is sent. -/
def parts (text : String) : List String := Text.chunks maxMessageBytes text

variable {σ : Type}

/-- Makes a request, with a reader for its result. -/
def call {α : Type} (b : Bot) (net : Network σ) (request : BotRequest) (read : Json → Option α)
    (s : σ) : Except BotError α × σ :=
  match b.target request.method with
  | .error e => (.error (.address e), s)
  | .ok target =>
    let (answer, s) := net.post target request s
    (BotAnswer.ofText read request.method answer, s)

/-- Sends one message and gives its number. -/
def sendMessage (b : Bot) (net : Network σ) (chat : ChatId) (text : String) (s : σ) :
    Except BotError MessageId × σ :=
  b.call net (.send chat text) messageNumber? s

/-- Sends messages in order, until one is not accepted. -/
def sendAll (b : Bot) (net : Network σ) (chat : ChatId) : List String → σ → Except BotError Unit × σ
  | [], s => (.ok (), s)
  | text :: texts, s =>
    match b.sendMessage net chat text s with
    | (.ok _, s) => b.sendAll net chat texts s
    | (.error e, s) => (.error e, s)

/-- Sends a text to a chat. -/
def sendTo (b : Bot) (net : Network σ) (chat : ChatId) (text : String) (s : σ) :
    Except BotError Unit × σ :=
  b.sendAll net chat (parts text) s

/-- Sends a text to the chat of the bot. -/
def send (b : Bot) (net : Network σ) (text : String) (s : σ) : Except BotError Unit × σ :=
  b.sendTo net b.chat text s

/-- Sends a text to the chat of the bot and gives the number of the message, if it is one. -/
def sendTracked (b : Bot) (net : Network σ) (text : String) (s : σ) :
    Except BotError (Option MessageId) × σ :=
  match parts text with
  | [part] =>
    let (result, s) := b.sendMessage net b.chat part s
    (result.map some, s)
  | _ =>
    let (result, s) := b.send net text s
    (result.map fun _ => none, s)

/-- Replaces the text of a message in the chat of the bot. A text that is not one message is
sent instead. -/
def edit (b : Bot) (net : Network σ) (id : MessageId) (text : String) (s : σ) :
    Except BotError Unit × σ :=
  match parts text with
  | [part] =>
    let (result, s) := b.call net (.edit b.chat id part) some s
    (result.map fun _ => (), s)
  | _ => b.send net text s

/-- The updates from a number on. -/
def fetch (b : Bot) (net : Network σ) (offset : Int) (seconds : Nat) (s : σ) :
    Except BotError (List Update) × σ :=
  b.call net (.updates offset seconds) Update.batchOfJson? s

/-- The receipt for a message. -/
def receipt : Except BotError (Option MessageId) → Receipt
  | .error _ => .failed
  | .ok none => .untracked
  | .ok (some id) => .tracked id

/-- The bot as a channel. -/
def channel (b : Bot) (net : Network σ) : Channel σ where
  send text s := let (result, s) := b.send net text s; (result.isOk, s)
  sendTracked text s := let (result, s) := b.sendTracked net text s; (receipt result, s)
  edit id text s := let (result, s) := b.edit net id text s; (result.isOk, s)
  sendTo chat text s := let (result, s) := b.sendTo net chat text s; (result.isOk, s)

/-- Asks for updates once and takes them. -/
def poll {τ : Type} (b : Bot) (net : Network σ) (src : Source τ) (p : Polling τ σ) : Polling τ σ :=
  let (result, channel) := b.fetch net p.offset pollSeconds p.conversation.channel
  let p := { p with conversation := { p.conversation with channel } }
  p.take src (b.channel net) b.chat result.toOption

end Bot

end Uptime

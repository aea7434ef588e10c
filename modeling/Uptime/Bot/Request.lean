import Uptime.Channel
import Uptime.Json.Basic

/-!
# Requests to the chat service

## Main definitions

* `BotRequest`: what the service is asked to do.
* `BotRequest.method`, `BotRequest.body`: the name of the method and its parameters.
-/

namespace Uptime

/-- What the chat service is asked to do. -/
inductive BotRequest
  /-- To send a text to a chat. -/
  | send (chat : ChatId) (text : String)
  /-- To replace the text of a message. -/
  | edit (chat : ChatId) (id : MessageId) (text : String)
  /-- To hand out the updates from a number on, waiting some seconds for them. -/
  | updates (offset : Int) (seconds : Nat)
  deriving DecidableEq, Repr

namespace BotRequest

/-- The name of the method. -/
def method : BotRequest → String
  | send .. => "sendMessage"
  | edit .. => "editMessageText"
  | updates .. => "getUpdates"

/-- The parameters that say how a text is shown. -/
def textParameters (text : String) : List (String × Json) :=
  [("text", .string text), ("parse_mode", .string "HTML"),
    ("disable_web_page_preview", .bool true)]

/-- The parameters. -/
def body : BotRequest → Json
  | send chat text => .object (("chat_id", .int chat) :: textParameters text)
  | edit chat id text =>
    .object (("chat_id", .int chat) :: ("message_id", .int id) :: textParameters text)
  | updates offset seconds =>
    .object [("offset", .int offset), ("timeout", .int seconds),
      ("allowed_updates", .array [.string "message"])]

end BotRequest

end Uptime

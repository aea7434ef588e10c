import Uptime.Json.Reader
import Uptime.Url.Error

/-!
# Answers of the chat service

An answer is a record that says whether the request was accepted, with the result or with the
reason of the refusal. Like all records it may be written as an object or as the array of its
fields.

## Main definitions

* `BotError`: why a request failed.
* `BotAnswer`, `BotAnswer.ofJson?`: an answer.
* `BotAnswer.result`: what it says.
-/

namespace Uptime

/-- Why a request failed. -/
inductive BotError
  /-- There was no answer. -/
  | noAnswer
  /-- The answer cannot be read. -/
  | unreadable
  /-- The request was refused. -/
  | rejected (code : Int) (description : String)
  /-- The request was accepted, but the answer has no result. -/
  | noResult (method : String)
  /-- The address of the method is not well-formed. -/
  | address (error : UrlError)
  deriving DecidableEq, Repr

/-- The text of an error. -/
def BotError.message : BotError → String
  | noAnswer | unreadable => "HTTP request failed"
  | rejected code description =>
    "API rejected request (" ++ toString code ++ "): " ++ description
  | noResult method => "unexpected API response: " ++ method ++ " returned no result"
  | address error => "invalid API URL: " ++ error.message

/-- An answer with results of a type. -/
structure BotAnswer (α : Type) where
  /-- Whether the request was accepted. -/
  ok : Bool
  /-- The result. -/
  result? : Option α
  /-- Why it was refused. -/
  description : Option String
  /-- The number of the reason. -/
  code : Option Int
  deriving Repr

namespace BotAnswer

variable {α : Type}

/-- The answer in a value, with a reader for results. -/
def ofJson? (read : Json → Option α) : Json → Option (BotAnswer α)
  | .object members => do
    let ok ← (← Json.member? members "ok").bool?
    let result? ← (← Json.optionalMember? members "result").nullable? read
    let description ← (← Json.optionalMember? members "description").nullable? Json.string?
    let code ← (← Json.optionalMember? members "error_code").nullable? Json.int64?
    return { ok, result?, description, code }
  | .array [ok, result, description, code] => do
    return {
      ok := ← ok.bool?
      result? := ← result.nullable? read
      description := ← description.nullable? Json.string?
      code := ← code.nullable? Json.int64? }
  | _ => none

/-- What an answer to a method says. -/
def result (method : String) (a : BotAnswer α) : Except BotError α :=
  if a.ok then
    match a.result? with
    | some result => .ok result
    | none => .error (.noResult method)
  else .error (.rejected (a.code.getD 0) (a.description.getD "unknown error"))

end BotAnswer

/-- What the text of an answer to a method says. -/
def BotAnswer.ofText {α : Type} (read : Json → Option α) (method : String) :
    Option String → Except BotError α
  | none => .error .noAnswer
  | some text =>
    match (Json.ofText? text).bind (BotAnswer.ofJson? read) with
    | none => .error .unreadable
    | some answer => answer.result method

/-- The number of a sent message. -/
def messageNumber? : Json → Option Int
  | .object members => do (← Json.member? members "message_id").int64?
  | .array [id] => id.int64?
  | _ => none

end Uptime

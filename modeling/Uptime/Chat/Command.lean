import Uptime.Text.Blank
import Uptime.Text.Casing

/-!
# Chat commands

A message that begins with a slash is a command: a word, to which the name of a bot may be
attached, and perhaps an argument.

## Main definitions

* `Command`: a command word and its argument.
* `commandWord`: the command word in the first word of a message.
* `Command.ofText?`: the command in a message.
-/

namespace Uptime

/-- A command in a message. -/
structure Command where
  /-- The command word, in lower case. -/
  word : String
  /-- The word after it. -/
  argument : Option String
  deriving DecidableEq, Repr, Inhabited

/-- What stands before the first `@` of a word; the whole word if that is its first character
or if there is none. -/
def withoutBotName (word : List Char) : List Char :=
  match word with
  | '@' :: _ => word
  | _ => word.takeWhile (· ≠ '@')

/-- The command word in the first word of a message: without slashes and without the name of a
bot, but with its case. -/
def commandWord (word : List Char) : List Char := withoutBotName (word.dropWhile (· = '/'))

namespace Command

/-- The command in a message. -/
def ofText? (text : String) : Option Command :=
  let raw := Text.trimChars Text.isBlank text.toList
  if raw.head? = some '/' then
    match Text.wordsOf raw with
    | [] => none
    | first :: rest =>
      match commandWord first with
      | [] => none
      | word => some ⟨Text.lower (String.ofList word), rest.head?.map String.ofList⟩
  else none

end Command

end Uptime

import Uptime.Settings.Basic
import Uptime.Settings.Error
import Uptime.Text.Decimal

/-!
# Variables over settings

Three settings can be given by variables of the environment, which win over the file.

## Main definitions

* `tokenVariable`, `chatVariable`, `pathVariable`: the names of the variables.
* `Settings.override`: the settings with the variables over them.
-/

namespace Uptime

/-- The variable for the token of the bot. -/
def tokenVariable : String := "PORTWATCH_BOT_TOKEN"

/-- The variable for the chat. -/
def chatVariable : String := "PORTWATCH_CHAT_ID"

/-- The variable for the path of the database. -/
def pathVariable : String := "PORTWATCH_SQLITE_PATH"

/-- The value of a variable without blanks around it; a blank one counts as unset. -/
def variableValue? (lookup : String → Option String) (name : String) : Option String :=
  ((lookup name).map Text.trim).filter (· ≠ "")

namespace Settings

/-- The settings with the variables over them, up to the first that has a wrong form, and the
error that it gives. -/
def override (s : Settings) (lookup : String → Option String) :
    Option SettingsError × Settings :=
  let s := { s with bot.token := (variableValue? lookup tokenVariable).getD s.bot.token }
  let withPath (s : Settings) : Settings :=
    { s with storage.path := (variableValue? lookup pathVariable).getD s.storage.path }
  match variableValue? lookup chatVariable with
  | none => (none, withPath s)
  | some value =>
    match Text.toInt64? value with
    | some chat => (none, withPath { s with bot.chat := chat })
    | none => (some (.badVariable chatVariable value), s)

end Settings

end Uptime

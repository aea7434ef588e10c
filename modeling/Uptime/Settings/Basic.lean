/-!
# Settings

The settings of the service, in the sections of its configuration file, with the values that
hold where the file is silent.

## Main definitions

* `BotSettings`, `CheckSettings`, `StorageSettings`, `LogSettings`, `TargetSettings`: the
  sections.
* `Settings`: all settings.
-/

namespace Uptime

/-- The section about the chat bot. -/
structure BotSettings where
  /-- The token of the bot; without one there is no chat. -/
  token : String := ""
  /-- The chat that is told and listened to. -/
  chat : Int := 0
  /-- The address of the chat service. -/
  apiBase : String := "https://api.telegram.org"
  /-- Whether commands are answered. -/
  commandsEnabled : Bool := true
  deriving DecidableEq, Repr, Inhabited

/-- Whether there is any chat. -/
def BotSettings.enabled (b : BotSettings) : Bool := b.token ≠ ""

/-- The section about checks. -/
structure CheckSettings where
  /-- The seconds between two cycles. -/
  interval : Nat := 5
  /-- The seconds that a probe may take. -/
  timeout : Nat := 2
  /-- The most probes at the same time; none means one for each target. -/
  workers : Nat := 0
  /-- The seconds within which a recovery is told by an edit. -/
  recoveryWindow : Nat := 30
  /-- The most rows of the check log that may be read at once. -/
  logCeiling : Nat := 50000
  deriving DecidableEq, Repr, Inhabited

/-- The section about the store. -/
structure StorageSettings where
  /-- The path of the database. -/
  path : String := "portwatch.db"
  /-- The days for which results are kept; none means for ever. -/
  retentionDays : Int := 5
  /-- The milliseconds to wait for a locked database. -/
  busyTimeout : Nat := 5000
  /-- The most connections to the database. -/
  connections : Nat := 4
  deriving DecidableEq, Repr, Inhabited

/-- The section about the log. -/
structure LogSettings where
  /-- The least level that is logged. -/
  level : String := "info"
  /-- The name of the format. -/
  format : String := "compact"
  deriving DecidableEq, Repr, Inhabited

/-- A target for an empty catalog, as it was typed. -/
structure TargetSettings where
  /-- The name. -/
  name : String
  /-- The address. -/
  address : String
  /-- The port. -/
  port : Int
  deriving DecidableEq, Repr, Inhabited

/-- All settings. -/
structure Settings where
  /-- The chat bot. -/
  bot : BotSettings := {}
  /-- The checks. -/
  check : CheckSettings := {}
  /-- The store. -/
  storage : StorageSettings := {}
  /-- The log. -/
  log : LogSettings := {}
  /-- The targets for an empty catalog. -/
  targets : List TargetSettings := []
  deriving DecidableEq, Repr, Inhabited

end Uptime

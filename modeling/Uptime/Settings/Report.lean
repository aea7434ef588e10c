import Uptime.Settings.Basic

/-!
# The settings report

The text in which settings are shown to the operator. The token is masked.

## Main definitions

* `Settings.maskToken`: the shown form of a token.
* `Settings.report`: the text.
-/

namespace Uptime.Settings

/-- The shown form of a token: no more than its first four characters. -/
def maskToken (token : String) : String :=
  if token = "" then "(not set)" else String.ofList (token.toList.take 4) ++ "****"

/-- The title of a section. -/
def reportTitle (title : String) : String := "  " ++ title ++ "\n"

/-- A line of a section. -/
def reportLine (label value : String) : String := "    " ++ label ++ ": " ++ value ++ "\n"

/-- A line about a target. -/
def reportTarget (t : TargetSettings) : String :=
  "      " ++ t.name ++ ": " ++ t.address ++ ":" ++ toString t.port ++ "\n"

/-- The text in which settings are shown. -/
def report (s : Settings) : String :=
  "Current Configuration State:\n"
    ++ reportTitle "Bot"
    ++ reportLine "Token" (maskToken s.bot.token)
    ++ reportLine "Chat ID" (toString s.bot.chat)
    ++ reportLine "API Base URL" s.bot.apiBase
    ++ reportLine "Commands Enabled" (toString s.bot.commandsEnabled)
    ++ reportTitle "Monitoring"
    ++ reportLine "Interval (s)" (toString s.check.interval)
    ++ reportLine "Connect Timeout (s)" (toString s.check.timeout)
    ++ reportLine "Max Parallel Checks" (toString s.check.workers)
    ++ reportLine "Fast Recovery Window (s)" (toString s.check.recoveryWindow)
    ++ reportLine "Logs Limit Ceiling" (toString s.check.logCeiling)
    ++ reportTitle "Storage"
    ++ reportLine "Path" s.storage.path
    ++ reportLine "Retention (days)" (toString s.storage.retentionDays)
    ++ reportLine "Busy Timeout (ms)" (toString s.storage.busyTimeout)
    ++ reportLine "Max Connections" (toString s.storage.connections)
    ++ reportTitle "Logging"
    ++ reportLine "Level" s.log.level
    ++ reportLine "Format" s.log.format
    ++ reportTitle "Seed Targets"
    ++ (if s.targets = [] then reportLine "Count" "0" else "")
    ++ String.join (s.targets.map reportTarget)

end Uptime.Settings

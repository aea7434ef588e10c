import Uptime.Settings.Basic

/-!
# Writing settings

The text of a configuration file that holds all settings.

## Main definitions

* `Settings.writeString`, `Settings.line`: a string and a line of the file.
* `Settings.text`: the whole file.
-/

namespace Uptime.Settings

/-- The form of a character in a string. -/
def writeChar (c : Char) : List Char :=
  if c = '"' then ['\\', '"']
  else if c = '\\' then ['\\', '\\']
  else if c = '\n' then ['\\', 'n']
  else if c = '\r' then ['\\', 'r']
  else if c = '\t' then ['\\', 't']
  else if c = '\x08' then ['\\', 'b']
  else if c = '\x0c' then ['\\', 'f']
  else if c.toNat < 0x20 ∨ c.toNat = 0x7F then
    let digits := Nat.toDigits 16 c.toNat
    ['\\', 'u'] ++ List.replicate (4 - digits.length) '0' ++ digits
  else [c]

/-- A string in double quotes. -/
def writeString (s : String) : String :=
  "\"" ++ String.ofList (s.toList.flatMap writeChar) ++ "\""

/-- A line with a key and a value. -/
def line (key value : String) : String := key ++ " = " ++ value ++ "\n"

/-- The lines of a section under its header. -/
def sectionText (header : String) (lines : List String) : String :=
  "\n" ++ header ++ "\n" ++ String.join lines

/-- The section about the chat bot. -/
def botText (b : BotSettings) : String :=
  sectionText "[bot]"
    [line "token" (writeString b.token), line "chat_id" (toString b.chat),
     line "api_base_url" (writeString b.apiBase),
     line "commands_enabled" (toString b.commandsEnabled)]

/-- The section about checks. -/
def checkText (c : CheckSettings) : String :=
  sectionText "[monitoring]"
    [line "interval_seconds" (toString c.interval),
     line "connect_timeout_seconds" (toString c.timeout),
     line "max_parallel_checks" (toString c.workers),
     line "fast_recovery_window_seconds" (toString c.recoveryWindow),
     line "logs_limit_ceiling" (toString c.logCeiling)]

/-- The section about the store. -/
def storageText (s : StorageSettings) : String :=
  sectionText "[storage]"
    [line "path" (writeString s.path), line "retention_days" (toString s.retentionDays),
     line "busy_timeout_ms" (toString s.busyTimeout),
     line "max_connections" (toString s.connections)]

/-- The section about the log. -/
def logText (l : LogSettings) : String :=
  sectionText "[logging]"
    [line "level" (writeString l.level), line "format" (writeString l.format)]

/-- A target. -/
def targetText (t : TargetSettings) : String :=
  sectionText "[[targets]]"
    [line "name" (writeString t.name), line "address" (writeString t.address),
     line "port" (toString t.port)]

/-- The text of the configuration file. An empty list of targets stands first, because it is no
section. -/
def text (s : Settings) : String :=
  (if s.targets = [] then line "targets" "[]" else "")
    ++ botText s.bot ++ checkText s.check ++ storageText s.storage ++ logText s.log
    ++ String.join (s.targets.map targetText)

end Uptime.Settings

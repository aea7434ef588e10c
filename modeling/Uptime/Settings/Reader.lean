import Uptime.Settings.Basic
import Uptime.Toml.Reader

/-!
# Reading settings

The settings in a configuration file. What the file does not mention keeps its default, what
is not known is ignored, and every value must have its type. A target has no defaults.

## Main definitions

* `optional?`, `required?`: a field of a record.
* `Settings.ofToml?`: the settings in a document.
* `Settings.ofText?`: the settings in a text.
-/

namespace Uptime

open Toml

/-- The fields of a record, by name. -/
abbrev Fields := String → Option Toml

/-- A field that may be missing. -/
def optional? {α : Type} (fields : Fields) (name : String) (read : Toml → Option α)
    (default : α) : Option α :=
  match fields name with
  | none => some default
  | some value => read value

/-- A field that must be there. -/
def required? {α : Type} (fields : Fields) (name : String) (read : Toml → Option α) : Option α :=
  (fields name).bind read

/-- The section about the chat bot. -/
def BotSettings.ofToml? (value : Toml) : Option BotSettings := do
  let fields ← value.fields? ["token", "chat_id", "api_base_url", "commands_enabled"]
  let unset : BotSettings := {}
  return {
    token := ← optional? fields "token" string? unset.token
    chat := ← optional? fields "chat_id" int? unset.chat
    apiBase := ← optional? fields "api_base_url" string? unset.apiBase
    commandsEnabled := ← optional? fields "commands_enabled" bool? unset.commandsEnabled }

/-- The section about checks. -/
def CheckSettings.ofToml? (value : Toml) : Option CheckSettings := do
  let fields ← value.fields? ["interval_seconds", "connect_timeout_seconds",
    "max_parallel_checks", "fast_recovery_window_seconds", "logs_limit_ceiling"]
  let unset : CheckSettings := {}
  return {
    interval := ← optional? fields "interval_seconds" nat? unset.interval
    timeout := ← optional? fields "connect_timeout_seconds" nat? unset.timeout
    workers := ← optional? fields "max_parallel_checks" nat? unset.workers
    recoveryWindow :=
      ← optional? fields "fast_recovery_window_seconds" nat? unset.recoveryWindow
    logCeiling := ← optional? fields "logs_limit_ceiling" nat? unset.logCeiling }

/-- The section about the store. -/
def StorageSettings.ofToml? (value : Toml) : Option StorageSettings := do
  let fields ← value.fields? ["path", "retention_days", "busy_timeout_ms", "max_connections"]
  let unset : StorageSettings := {}
  return {
    path := ← optional? fields "path" string? unset.path
    retentionDays := ← optional? fields "retention_days" int? unset.retentionDays
    busyTimeout := ← optional? fields "busy_timeout_ms" nat? unset.busyTimeout
    connections := ← optional? fields "max_connections" nat? unset.connections }

/-- The section about the log. -/
def LogSettings.ofToml? (value : Toml) : Option LogSettings := do
  let fields ← value.fields? ["level", "format"]
  let unset : LogSettings := {}
  return {
    level := ← optional? fields "level" string? unset.level
    format := ← optional? fields "format" string? unset.format }

/-- A target. -/
def TargetSettings.ofToml? (value : Toml) : Option TargetSettings := do
  let fields ← value.fields? ["name", "address", "port"]
  return {
    name := ← required? fields "name" string?
    address := ← required? fields "address" string?
    port := ← required? fields "port" int? }

/-- A list of targets. -/
def targetsOfToml? (value : Toml) : Option (List TargetSettings) := do
  (← value.items?).mapM TargetSettings.ofToml?

namespace Settings

/-- The settings in a document. -/
def ofToml? (value : Toml) : Option Settings := do
  let fields ← value.fields? ["bot", "monitoring", "storage", "logging", "targets"]
  return {
    bot := ← optional? fields "bot" BotSettings.ofToml? {}
    check := ← optional? fields "monitoring" CheckSettings.ofToml? {}
    storage := ← optional? fields "storage" StorageSettings.ofToml? {}
    log := ← optional? fields "logging" LogSettings.ofToml? {}
    targets := ← optional? fields "targets" targetsOfToml? [] }

/-- The settings in a text. -/
def ofText? (text : String) : Option Settings := (Toml.ofText? text).bind ofToml?

end Settings

end Uptime

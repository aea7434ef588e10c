import Uptime.Settings.Basic
import Uptime.Settings.Error

/-!
# Checking settings

Settings are checked before the service starts, so that nothing it would trip over later is
left in them.

## Main definitions

* `Settings.seeds`: the definitions of the targets.
* `Settings.validate`: the checks.
-/

namespace Uptime

/-- The definition of a target. -/
def TargetSettings.definition (t : TargetSettings) : Except SettingsError Definition :=
  (Definition.ofEntry t.name t.address t.port).mapError (.badTarget t.name)

/-- The format of the log. -/
def LogSettings.logFormat (l : LogSettings) : Except SettingsError LogFormat :=
  (LogFormat.ofText l.format).mapError .logFormat

namespace Settings

/-- The definitions of the targets. -/
def seeds (s : Settings) : Except SettingsError (List Definition) :=
  s.targets.mapM TargetSettings.definition

/-- Checks targets in order; `seen` are the names before, in lower case. -/
def checkTargets (seen : List String) : List TargetSettings → Except SettingsError Unit
  | [] => .ok ()
  | t :: ts => do
    let definition ← t.definition
    let key := Text.lower definition.name
    if key ∈ seen then throw (.duplicateTarget definition.name)
    checkTargets (key :: seen) ts

/-- Checks all settings; the first condition that fails decides the error. -/
def validate (s : Settings) : Except SettingsError Unit := do
  (checkInterval s.check.interval).mapError .limit
  (checkTimeout s.check.timeout).mapError .limit
  (checkRetention s.storage.retentionDays).mapError .limit
  let _ ← s.log.logFormat
  checkTargets [] s.targets

end Settings

end Uptime

import Uptime.Settings.Limits
import Uptime.Settings.LogFormat
import Uptime.Target.Entry

/-!
# Errors of the settings

## Main definitions

* `SettingsError`: why settings cannot be used.
* `SettingsError.message`: the text of an error.
* `SettingsError.cause?`: the text of the error behind it.
-/

namespace Uptime

/-- Why settings cannot be used. -/
inductive SettingsError
  /-- The file cannot be read. -/
  | readFailed (cause : String)
  /-- The file cannot be written. -/
  | writeFailed (cause : String)
  /-- The file cannot be understood. -/
  | parseFailed
  /-- No place for the file is known. -/
  | pathUnavailable
  /-- A variable has a value of the wrong form. -/
  | badVariable (name value : String)
  /-- A target is not well-formed. -/
  | badTarget (name : String) (error : EntryError)
  /-- Two targets have names that differ by case only. -/
  | duplicateTarget (name : String)
  /-- A setting is out of its bounds. -/
  | limit (error : LimitError)
  /-- The log format is unknown. -/
  | logFormat (error : UnknownLogFormat)
  deriving DecidableEq, Repr

namespace SettingsError

/-- The text of an error. -/
def message : SettingsError → String
  | readFailed cause => "failed to read config file: " ++ cause
  | writeFailed cause => "failed to write config file: " ++ cause
  | parseFailed => "failed to parse config file"
  | pathUnavailable => "no config path available (set XDG_CONFIG_HOME or HOME)"
  | badVariable name value => "invalid value for " ++ name ++ ": " ++ Text.quote value
  | badTarget name error => "invalid target " ++ Text.quote name ++ ": " ++ error.message
  | duplicateTarget name => "duplicate target name: " ++ name
  | limit error => "invalid monitoring settings: " ++ error.message
  | logFormat error => error.message

/-- The text of the error behind an error. -/
def cause? : SettingsError → Option String
  | readFailed cause => some cause
  | writeFailed cause => some cause
  | badTarget _ error => some error.message
  | limit error => some error.message
  | _ => none

end SettingsError

end Uptime

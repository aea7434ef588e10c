import Uptime.Files.Disk
import Uptime.Settings.Override
import Uptime.Settings.Reader
import Uptime.Settings.Writer

/-!
# Loading settings

Settings come from a file, which is written with the defaults if it is not there, and from the
variables over it.

## Main definitions

* `Settings.filePath`: the path of a settings file.
* `Settings.defaultPath?`: where the file is if no path is given.
* `Settings.load`: the settings.
-/

namespace Uptime.Settings

/-- The path of a settings file: whatever its extension is, it becomes that of such files. -/
def filePath (path : String) : String :=
  if Path.extension? path = some "toml" then path else Path.withExtension path "toml"

/-- Where the file is if no path is given. -/
def defaultPath? (lookup : String → Option String) : Option String :=
  let base? :=
    (lookup "XDG_CONFIG_HOME").or ((lookup "HOME").map fun home => Path.join home ".config")
  base?.map fun base => Path.join base "portwatch/config.toml"

/-- The path of the file: the one that was given, or the default. -/
def chosenPath? (lookup : String → Option String) : Option String → Option String
  | some path => some (filePath path)
  | none => defaultPath? lookup

variable {m : Type → Type} [Monad m]

/-- Writes settings to a file, in a directory that is made if need be. -/
def save (s : Settings) (disk : Disk m) (path : String) : m (Except SettingsError Unit) := do
  let made ← disk.makeDirectories ((Path.parent? path).getD "")
  match made with
  | .error e => return .error (.writeFailed e.message)
  | .ok () => return (← disk.write path s.text).mapError fun e => .writeFailed e.message

/-- The settings in a file. If there is none, it is written with the defaults. -/
def ofFile (disk : Disk m) (path : String) : m (Except SettingsError Settings) := do
  if ← disk.isPresent path then
    match ← disk.read path with
    | .error e => return .error (.readFailed e.message)
    | .ok text =>
      match ofText? text with
      | none => return .error .parseFailed
      | some s => return .ok s
  else return (← save {} disk path).map fun _ => {}

/-- The settings with the variables over them; the first variable of a wrong form is an
error. -/
def overridden (s : Settings) (lookup : String → Option String) : Except SettingsError Settings :=
  match s.override lookup with
  | (none, s) => .ok s
  | (some error, _) => .error error

/-- The settings from the file at a path or at the default place, and from the variables. -/
def load (disk : Disk m) (lookup : String → Option String) (path : Option String) :
    m (Except SettingsError Settings) :=
  match chosenPath? lookup path with
  | none => return .error .pathUnavailable
  | some path => return (← ofFile disk path).bind fun s => s.overridden lookup

end Uptime.Settings

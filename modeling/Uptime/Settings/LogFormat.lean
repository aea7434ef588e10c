import Uptime.Text.Blank
import Uptime.Text.Casing

/-!
# Log formats

The two forms in which the service can write its log.

## Main definitions

* `LogFormat`: compact or JSON.
* `LogFormat.ofText`: the format that a setting names.
* `UnknownLogFormat`: a setting that names none.
-/

namespace Uptime

/-- The form of the log. -/
inductive LogFormat
  /-- Short lines for people. -/
  | compact
  /-- JSON lines for programs. -/
  | json
  deriving DecidableEq, Repr, Inhabited

/-- A setting that names no format. -/
structure UnknownLogFormat where
  /-- The setting, trimmed and with its ASCII letters in lower case. -/
  setting : String
  deriving DecidableEq, Repr

/-- The text of the error. -/
def UnknownLogFormat.message (e : UnknownLogFormat) : String :=
  "unknown log format \x60" ++ e.setting
    ++ "\x60 (expected \x60compact\x60 or \x60json\x60)"

namespace LogFormat

/-- The name of a format. -/
def name : LogFormat → String
  | compact => "compact"
  | json => "json"

/-- The format that a setting names: blanks around it and the case of ASCII letters do not
count, and without a name the log is compact. -/
def ofText (setting : String) : Except UnknownLogFormat LogFormat :=
  match Text.lowerAscii (Text.trim setting) with
  | "" => .ok compact
  | "compact" => .ok compact
  | "json" => .ok json
  | other => .error ⟨other⟩

/-- A format is found under its name. -/
theorem ofText_name (f : LogFormat) : ofText f.name = .ok f := by
  cases f <;> rfl

end LogFormat

end Uptime

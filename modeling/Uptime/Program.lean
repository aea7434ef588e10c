import Uptime.CommandLine
import Uptime.Settings.Load
import Uptime.Settings.Report
import Uptime.Settings.Validation
import Uptime.Variables.File

/-!
# The program

What the program does before the service starts: it reads the variables, the command line and
the settings.

## Main definitions

* `Outcome`: what a finished run leaves.
* `Preparation`: a finished run, or the settings with which the service starts.
* `prepare`: all that is done before the service starts.
-/

namespace Uptime

/-- What a finished run leaves. -/
structure Outcome where
  /-- The exit code. -/
  code : UInt8
  /-- The output. -/
  output : String := ""
  /-- The text about errors. -/
  errors : String := ""
  deriving DecidableEq, Repr

/-- How an error is told at the end of a run. -/
def SettingsError.report (e : SettingsError) : String :=
  "Error: " ++ e.message ++ "\n" ++
    match e.cause? with
    | none => ""
    | some cause => "\nCaused by:\n    " ++ cause ++ "\n"

/-- A run that an error of the settings ends. -/
def Outcome.ofSettingsError (e : SettingsError) : Outcome := { code := 1, errors := e.report }

/-- A run that an error of the command line ends. -/
def Outcome.ofUsageError (e : UsageError) : Outcome := { code := 2, errors := e.message }

/-- A run that a variable ends which cannot be set. -/
def Outcome.ofNulInValue (e : Variables.NulInValue) : Outcome :=
  { code := 101, errors := "the value of the variable " ++ e.name ++ " has a NUL\n" }

/-- What comes of a command line. -/
inductive Preparation
  /-- The run is over. -/
  | finished (outcome : Outcome)
  /-- The service starts. -/
  | ready (settings : Settings)

/-- The settings if nothing is wrong with them. The format of the log comes first, because the
other errors are logged. -/
def Settings.checked (s : Settings) : Except SettingsError Settings := do
  let _ ← s.log.logFormat
  s.validate
  return s

/-- What comes of settings. -/
def Preparation.ofSettings (checkOnly : Bool) : Except SettingsError Settings → Preparation
  | .error e => .finished (.ofSettingsError e)
  | .ok s => if checkOnly then .finished { code := 0, output := s.report ++ "\n" } else .ready s

variable {m : Type → Type} [Monad m]

/-- Does what a command line asks for. -/
def Invocation.answer (disk : Disk m) (v : Variables) : Invocation → m Preparation
  | .version => return .finished { code := 0, output := versionText }
  | .help =>
    let help := helpText (v.find? settingsPathVariable)
    return .finished { code := 0, output := Terminal.plain help }
  | .start options => do
    let loaded ← Settings.load disk v.find? options.settingsPath
    return .ofSettings options.checkOnly (loaded.bind Settings.checked)

/-- Does all that is done before the service starts, in a directory. -/
def prepare (disk : Disk m) (directory : String) (v : Variables) (arguments : List String) :
    m Preparation := do
  match ← v.withNearestFile disk directory with
  | .error e => return .finished (.ofNulInValue e)
  | .ok v =>
    match Invocation.ofArguments (v.find? settingsPathVariable) arguments with
    | .error e => return .finished (.ofUsageError e)
    | .ok invocation => invocation.answer disk v

end Uptime

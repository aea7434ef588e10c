import Uptime.Program

/-!
# The entry point

The real disk and the real variables for `prepare`.

## Main definitions

* `realDisk`: the disk of the machine.
* `processVariables`: the variables of the process.
* `main`: the program.
-/

open Uptime

/-- The reason that an error of the machine stands for. -/
def fileErrorOf : IO.Error → FileError
  | .noFileOrDirectory _ 2 _ => .notFound
  | .alreadyExists _ 17 _ => .taken
  | .inappropriateType _ 20 _ => .notDirectory
  | .inappropriateType _ 21 _ => .isDirectory
  | e => .other e.toString

/-- Runs an operation of the machine. -/
def attempt {α : Type} (action : IO α) : IO (Except FileError α) := do
  match ← action.toBaseIO with
  | .ok a => return .ok a
  | .error e => return .error (fileErrorOf e)

/-- The disk of the machine. -/
def realDisk : Disk IO where
  kind path := do
    match ← (IO.FS.readFile path).toBaseIO with
    | .ok _ | .error (.userError _) => return .ok .file
    | .error e =>
      let reason := fileErrorOf e
      return if reason = .isDirectory then .ok .directory else .error reason
  read path := attempt (IO.FS.readFile path)
  makeDirectory path := attempt (IO.FS.createDir path)
  write path text := attempt (IO.FS.writeFile path text)

/-- The variable in a text `NAME=VALUE`. -/
def variableOf? (text : String) : Option (String × String) :=
  match text.splitOn "=" with
  | name :: first :: rest => some (name, "=".intercalate (first :: rest))
  | _ => none

/-- The variables of the process. -/
def processVariables : IO Variables := do
  match ← (IO.FS.readFile "/proc/self/environ").toBaseIO with
  | .ok text => return (text.splitOn "\x00").filterMap variableOf?
  | .error _ =>
    let names := ["HOME", "XDG_CONFIG_HOME", settingsPathVariable, tokenVariable, chatVariable,
      pathVariable]
    names.filterMapM fun name => do return (← IO.getEnv name).map fun value => (name, value)

/-- The program. -/
def main (arguments : List String) : IO UInt32 := do
  let directory := (← IO.currentDir).toString
  match ← prepare realDisk directory (← processVariables) arguments with
  | .finished outcome =>
    (← IO.getStdout).putStr outcome.output
    (← IO.getStderr).putStr outcome.errors
    return outcome.code.toUInt32
  | .ready _ =>
    (← IO.getStderr).putStr "Error: this program only checks settings; use --check-config\n"
    return 1

import Uptime.Text.Terminal

/-!
# The command line

Options are taken from left to right. The first one that asks for help or the version, and the
first mistake, end the reading.

## Main definitions

* `Options`, `Invocation`: what a command line asks for.
* `UsageError`, `UsageError.message`: why a command line is refused.
* `Invocation.ofArguments`: the meaning of a command line.
* `versionText`, `helpText`: the answers to the two questions, the second one with emphasis.
-/

namespace Uptime

/-- What is said about the service to be started. -/
structure Options where
  /-- The path of the settings file. -/
  settingsPath : Option String := none
  /-- Whether the settings are only shown. -/
  checkOnly : Bool := false
  deriving DecidableEq, Repr, Inhabited

/-- What a command line asks for. -/
inductive Invocation
  /-- The service, or its settings. -/
  | start (options : Options)
  /-- The version. -/
  | version
  /-- A description of the options. -/
  | help
  deriving DecidableEq, Repr

/-- Why a command line is refused. -/
inductive UsageError
  /-- There is no such argument. -/
  | unexpected (argument : String)
  /-- The path is not there or empty. -/
  | noPath
  /-- An option stands twice. -/
  | repeated (option : String)
  /-- A value stands where none is taken. -/
  | unexpectedValue (option value : String)
  deriving DecidableEq, Repr

/-- The name of the program. -/
def programName : String := "portwatch"

/-- The variable that gives the path of the settings file. -/
def settingsPathVariable : String := "PORTWATCH_CONFIG"

/-- The text of an error. -/
def UsageError.message (e : UsageError) : String :=
  let usage := "\n\nUsage: " ++ programName ++ " [OPTIONS]"
  let (what, usage) := match e with
    | unexpected argument => ("unexpected argument '" ++ argument ++ "' found", usage)
    | noPath => ("a value is required for '--config <CONFIG>' but none was supplied", "")
    | repeated option => ("the argument '" ++ option ++ "' cannot be used multiple times", usage)
    | unexpectedValue option value =>
      ("unexpected value '" ++ value ++ "' for '" ++ option ++ "' found; no more were expected",
        usage)
  "error: " ++ what ++ usage ++ "\n\nFor more information, try '--help'.\n"

/-- The answer to the question for the version. -/
def versionText : String := programName ++ " 0.1.0\n"

/-- The column in which the description of an option begins. -/
def descriptionColumn : Nat := 25

/-- A description of an option; its lines begin in one column. -/
def description (text : String) : String :=
  ("\n" ++ "".pushn ' ' descriptionColumn).intercalate (text.splitOn "\n")

/-- An entry of the list of options: the option, what stands between it and the column of
descriptions, and its description. -/
def optionEntry (letter : Option String) (word rest text : String) : String :=
  (match letter with
    | some letter => "  " ++ Terminal.bold letter ++ ", "
    | none => "      ")
    ++ Terminal.bold word ++ rest ++ description text ++ "\n"

/-- The answer to the question for help, with the path that the variable gives. -/
def helpText (path : Option String) : String :=
  "TCP reachability monitor with chat alerts\n\n"
    ++ Terminal.bold "Usage:" ++ " " ++ Terminal.bold programName ++ " [OPTIONS]\n\n"
    ++ Terminal.bold "Options:" ++ "\n"
    ++ optionEntry (some "-c") "--config" " <CONFIG>  "
      ("Path to the TOML config file (created with defaults if missing) [env: "
        ++ settingsPathVariable ++ "=" ++ path.getD "" ++ "]")
    ++ optionEntry none "--check-config" "     "
      "Load and validate the configuration, print it and exit"
    ++ optionEntry (some "-h") "--help" "             " "Print help"
    ++ optionEntry (some "-V") "--version" "          " "Print version"

/-- An argument. -/
inductive Argument
  /-- The end of the options. -/
  | endOfOptions
  /-- An option of a word, and the value after its equals sign. -/
  | word (name : String) (value : Option String)
  /-- Options of a letter. -/
  | letters (letters : List Char)
  /-- Anything else. -/
  | plain
  deriving DecidableEq, Repr

/-- The form of an argument. A lone dash is no option. -/
def Argument.ofText (text : String) : Argument :=
  match text.toList with
  | ['-', '-'] => .endOfOptions
  | '-' :: '-' :: cs =>
    .word (String.ofList (cs.takeWhile (· ≠ '=')))
      (match cs.dropWhile (· ≠ '=') with
        | [] => none
        | _ :: value => some (String.ofList value))
  | '-' :: c :: cs => .letters (c :: cs)
  | _ => .plain

namespace Options

/-- The options with a path. -/
def setPath (o : Options) (path : String) : Except UsageError Options :=
  if path = "" then .error .noPath
  else if o.settingsPath.isSome then .error (.repeated "--config <CONFIG>")
  else .ok { o with settingsPath := some path }

/-- The options with the wish that the settings are only shown. -/
def setCheckOnly (o : Options) : Except UsageError Options :=
  if o.checkOnly then .error (.repeated "--check-config") else .ok { o with checkOnly := true }

/-- The options with a path from a variable, if there is none yet. -/
def completed (o : Options) (path : Option String) : Except UsageError Options :=
  match o.settingsPath, path with
  | none, some path => o.setPath path
  | _, _ => .ok o

end Options

/-- What an argument means after the options before it. -/
inductive Meaning
  /-- An option that is complete. -/
  | done (options : Options)
  /-- An option whose value is the next argument. -/
  | awaitsPath
  /-- The end of the options. -/
  | ends
  /-- A question. -/
  | asks (invocation : Invocation)

/-- What options of a letter mean. What follows the letter of a path is the path. -/
def lettersMeaning (o : Options) (argument : String) : List Char → Except UsageError Meaning
  | 'h' :: _ => .ok (.asks .help)
  | 'V' :: _ => .ok (.asks .version)
  | ['c'] => .ok .awaitsPath
  | 'c' :: '=' :: path | 'c' :: path => (o.setPath (String.ofList path)).map .done
  | _ => .error (.unexpected argument)

/-- What an option of a word means. -/
def wordMeaning (o : Options) (argument : String) :
    (name : String) → (value : Option String) → Except UsageError Meaning
  | "config", none => .ok .awaitsPath
  | "config", some path => (o.setPath path).map .done
  | "check-config", none => o.setCheckOnly.map .done
  | "help", none => .ok (.asks .help)
  | "version", none => .ok (.asks .version)
  | name, some value =>
    if name ∈ ["check-config", "help", "version"] then
      .error (.unexpectedValue ("--" ++ name) value)
    else .error (.unexpected argument)
  | _, none => .error (.unexpected argument)

/-- What an argument means. -/
def meaning (o : Options) (argument : String) : Except UsageError Meaning :=
  match Argument.ofText argument with
  | .endOfOptions => .ok .ends
  | .word name value => wordMeaning o argument name value
  | .letters letters => lettersMeaning o argument letters
  | .plain => .error (.unexpected argument)

/-- What arguments mean after options. -/
def Invocation.ofArgumentsFrom (o : Options) : List String → Except UsageError Invocation
  | [] => .ok (.start o)
  | argument :: rest => do
    match ← meaning o argument with
    | .asks invocation => .ok invocation
    | .done o => ofArgumentsFrom o rest
    | .ends =>
      match rest with
      | [] => .ok (.start o)
      | argument :: _ => .error (.unexpected argument)
    | .awaitsPath =>
      match rest with
      | [] => .error .noPath
      | path :: rest =>
        if Argument.ofText path = .plain then do ofArgumentsFrom (← o.setPath path) rest
        else .error .noPath

/-- The meaning of a command line, with the path that the variable gives. -/
def Invocation.ofArguments (path : Option String) (arguments : List String) :
    Except UsageError Invocation := do
  match ← ofArgumentsFrom {} arguments with
  | .start options => return .start (← options.completed path)
  | invocation => return invocation

end Uptime

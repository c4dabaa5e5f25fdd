import Whittle.Decimal.Digits
import Whittle.Worker.Config
import Whittle.Worker.Variables

/-!
# The command line of a worker

One argument names the parent process.  The options have a value each, which
comes from the command line, from the environment or by default, in this order
of preference.  Arguments are read from left to right.  The value of an option
or argument is looked at only when the next one begins, so what cannot be an
argument at all is reported before a bad value that stands right before it.
-/

namespace Whittle

/-- What the command line sets. -/
inductive Setting where
  | parent
  | recycleThreshold
  | watchdogInterval
  | logLevel
deriving Repr, DecidableEq

namespace Setting

/-- The settings with an option, in order. -/
def options : List Setting := [.recycleThreshold, .watchdogInterval, .logLevel]

/-- The name of a setting: of its option, or of the argument. -/
def name : Setting → String
  | .parent => "PARENT_PID"
  | .recycleThreshold => "recycle-threshold"
  | .watchdogInterval => "watchdog-interval-secs"
  | .logLevel => "log-level"

/-- The name of the value of a setting. -/
def valueName : Setting → String
  | .parent => "PARENT_PID"
  | .recycleThreshold => "RECYCLE_THRESHOLD"
  | .watchdogInterval => "WATCHDOG_INTERVAL_SECS"
  | .logLevel => "LOG_LEVEL"

/-- The environment variable that an option is set by. -/
def source? : Setting → Option String
  | .parent => none
  | .recycleThreshold => some "REDUCTO_RECYCLE_THRESHOLD"
  | .watchdogInterval => some "REDUCTO_WATCHDOG_INTERVAL_SECS"
  | .logLevel => some "REDUCTO_LOG"

/-- The default of an option, as it would be given. -/
def defaultText : Setting → String
  | .parent => ""
  | .recycleThreshold => "100"
  | .watchdogInterval => "10"
  | .logLevel => "warn"

def help : Setting → String
  | .parent => "Process id of the supervisor; the worker exits when it disappears"
  | .recycleThreshold => "Requests served by one execution container before it is replaced"
  | .watchdogInterval => "Seconds between checks on the supervisor"
  | .logLevel => "Log filter directive, written to stderr"

end Setting

/-- Why a command line does not start a worker. -/
inductive UsageError where
  /-- Help was asked for. -/
  | help
  | missingArgument
  | unknownArgument (argument : String)
  /-- An option stands without its value. -/
  | missingValue (setting : Setting)
  | badValue (setting : Setting) (value : String)
  /-- An option is given twice. -/
  | repeated (setting : Setting)
  /-- A value is given to an option that takes none. -/
  | surplusValue
deriving Repr, DecidableEq

namespace UsageError

def name : UsageError → String
  | .help => "DisplayHelp"
  | .missingArgument => "MissingRequiredArgument"
  | .unknownArgument _ => "UnknownArgument"
  | .missingValue _ => "InvalidValue"
  | .badValue .. => "ValueValidation"
  | .repeated _ => "ArgumentConflict"
  | .surplusValue => "TooManyValues"

/-- The code that the process ends with. -/
def exitCode : UsageError → UInt8
  | .help => 0
  | _ => 2

def message : UsageError → String
  | .help => "help was asked for"
  | .missingArgument => "the argument <" ++ Setting.parent.valueName ++ "> is required"
  | .unknownArgument argument => "unexpected argument " ++ argument
  | .missingValue setting => "a value is required for --" ++ setting.name
  | .badValue setting value => "invalid value " ++ value ++ " for " ++ setting.name
  | .repeated setting => "--" ++ setting.name ++ " cannot be used multiple times"
  | .surplusValue => "--help takes no value"

end UsageError

/-- The settings that were given so far. -/
structure Given where
  parent : Option UInt32
  recycleThreshold : Option Nat
  watchdogSeconds : Option Nat
  logLevel : Option String
deriving Repr, DecidableEq

namespace Given

def nothing : Given := ⟨none, none, none, none⟩

def has (given : Given) : Setting → Bool
  | .parent => given.parent.isSome
  | .recycleThreshold => given.recycleThreshold.isSome
  | .watchdogInterval => given.watchdogSeconds.isSome
  | .logLevel => given.logLevel.isSome

def read? (given : Given) (value : String) : Setting → Option Given
  | .parent => do
      let parent ← Decimal.natWithin? 1 (UInt32.size - 1) value
      return { given with parent := some (UInt32.ofNat parent) }
  | .recycleThreshold => do
      return { given with recycleThreshold := some (← Decimal.natWithin? 0 (UInt64.size - 1) value) }
  | .watchdogInterval => do
      return { given with watchdogSeconds := some (← Decimal.natWithin? 1 (UInt64.size - 1) value) }
  | .logLevel => some { given with logLevel := some value }

/-- Give a setting its value, once. -/
def put (given : Given) (setting : Setting) (value : String) : Except UsageError Given :=
  if given.has setting then .error (.repeated setting)
  else
    match given.read? value setting with
    | some given => .ok given
    | none => .error (.badValue setting value)

/-- Give the settings of the environment that were not given before. -/
def fill (environment : Variables) : List Setting → Given → Except UsageError Given
  | [], given => .ok given
  | setting :: rest, given =>
      match given.has setting, setting.source?.bind environment.get? with
      | false, some value => do fill environment rest (← given.put setting value)
      | _, _ => fill environment rest given

end Given

/-- Where the reading of arguments is. -/
structure ArgumentState where
  given : Given
  /-- A setting whose value was not looked at yet, or did not come yet. -/
  pending : Option (Setting × Option String)
  /-- Whether the argument itself was met. -/
  metParent : Bool
  /-- Whether everything that follows is an argument, whatever it looks like. -/
  onlyArguments : Bool
deriving Repr, DecidableEq

namespace ArgumentState

/-- Nothing was read yet. -/
def start : ArgumentState := ⟨.nothing, none, false, false⟩

/-- Look at the value that is pending. -/
def settle (state : ArgumentState) : Except UsageError ArgumentState :=
  match state.pending with
  | none => .ok state
  | some (setting, none) => .error (.missingValue setting)
  | some (setting, some value) => do
      return { state with given := ← state.given.put setting value, pending := none }

/-- An argument that is no option. -/
def argument (state : ArgumentState) (text : String) : Except UsageError ArgumentState :=
  if state.metParent then .error (.unknownArgument text)
  else do
    let state ← state.settle
    return { state with pending := some (.parent, some text), metParent := true }

/-- What stands before the first equals sign, and what stands after it if there is one. -/
def splitValue (text : List Char) : List Char × Option (List Char) :=
  match text.dropWhile (· != '=') with
  | [] => (text, none)
  | _ :: value => (text.takeWhile (· != '='), some value)

/-- An option, without the two dashes before it. -/
def option (state : ArgumentState) (text : List Char) : Except UsageError ArgumentState :=
  let (name, value) := splitValue text
  match Setting.options.find? (·.name.toList = name), value with
  | some setting, some value => do
      let state ← state.settle
      return { state with given := ← state.given.put setting (String.ofList value) }
  | some setting, none => do
      return { ← state.settle with pending := some (setting, none) }
  | none, value =>
      if name = "help".toList then
        match value with
        | some _ => .error .surplusValue
        | none => do
            let _ ← state.settle
            .error .help
      else .error (.unknownArgument (String.ofList ('-' :: '-' :: text)))

/-- Options of one letter, without the dash before them. -/
def letters (state : ArgumentState) (text : List Char) : Except UsageError ArgumentState :=
  if text.head? = some 'h' then do
    let _ ← state.settle
    .error .help
  else .error (.unknownArgument (String.ofList ('-' :: text)))

/-- A text that may be the value of the option before it. -/
def valueOrArgument (state : ArgumentState) (text : String) : Except UsageError ArgumentState :=
  match state.pending with
  | some (setting, none) => .ok { state with pending := some (setting, some text) }
  | _ => state.argument text

def step (state : ArgumentState) (text : String) : Except UsageError ArgumentState :=
  if state.onlyArguments then state.argument text
  else
    match text.toList with
    | ['-', '-'] => .ok { state with onlyArguments := true }
    | '-' :: '-' :: rest => state.option rest
    | '-' :: first :: rest => state.letters (first :: rest)
    | _ => state.valueOrArgument text

end ArgumentState

/-- What a command line asks for. -/
structure Command where
  parent : UInt32
  recycleThreshold : Nat
  watchdogSeconds : Nat
  logLevel : String
deriving Repr, DecidableEq

namespace Command

/-- Read a command line, without the name of the program. -/
def ofArguments (arguments : List String) (environment : Variables) :
    Except UsageError Command := do
  let state ← arguments.foldlM ArgumentState.step .start
  let given ← Given.fill environment Setting.options (← state.settle).given
  match given.parent with
  | none => .error .missingArgument
  | some parent =>
      return {
        parent
        recycleThreshold := given.recycleThreshold.getD 100
        watchdogSeconds := given.watchdogSeconds.getD 10
        logLevel := given.logLevel.getD Setting.logLevel.defaultText }

/-- The configuration of the worker; what the command line does not set has its default. -/
def config (command : Command) : WorkerConfig :=
  { WorkerConfig.standard with
    recycleThreshold := command.recycleThreshold
    watchdogInterval := .ofSeconds command.watchdogSeconds }

/-! ## Help -/

/-- Two lines about an option. -/
def optionHelp (environment : Variables) (setting : Setting) : List String :=
  let source := setting.source?.getD ""
  ["      --" ++ setting.name ++ " <" ++ setting.valueName ++ ">",
    "          " ++ setting.help ++ " [env: " ++ source ++ "=" ++
      (environment.get? source).getD "" ++ "] [default: " ++ setting.defaultText ++ "]"]

/-- What is printed when help is asked for. -/
def helpText (environment : Variables) : String :=
  "\n".intercalate <|
    ["Runs Debug/Release wasm builds on behalf of a fuzzing supervisor", "",
      "Usage: reducto-worker [OPTIONS] <PARENT_PID>", "", "Arguments:",
      "  <PARENT_PID>  " ++ Setting.parent.help, "", "Options:"] ++
    Setting.options.flatMap (optionHelp environment) ++
    ["  -h, --help", "          Print help", ""]

end Command

end Whittle

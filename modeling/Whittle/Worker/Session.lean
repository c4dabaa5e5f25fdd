import Whittle.Sandbox.Interpreter
import Whittle.Worker.CommandLine
import Whittle.Worker.LogFilter
import Whittle.Worker.Serve
import Whittle.Worker.Watchdog

/-!
# Sessions

A session is the life of a worker process: what its command line makes of it,
and what it leaves behind.  Its guests are interpreted.
-/

namespace Whittle

/-- What a process is started with, apart from its input. -/
structure Surroundings where
  arguments : List String
  environment : Variables

/-- Why a worker is not started. -/
inductive StartError where
  | usage (error : UsageError)
  | badFilter
  | setup (error : SetupError)
deriving Repr, DecidableEq

namespace StartError

/-- The code that the process ends with. -/
def exitCode : StartError → UInt8
  | .usage error => error.exitCode
  | .badFilter => 2
  | .setup _ => 1

def message : StartError → String
  | .usage error => "error: " ++ error.message
  | .badFilter => "Invalid log filter: invalid filter directive"
  | .setup error => "Failed to create execution container: " ++ error.message

end StartError

/-- A worker that can begin, with the command that it was started by. -/
structure Startup where
  command : Command
  worker : Worker

/-- Get ready: read the command line, check the log filter and create the worker. -/
def Surroundings.start (surroundings : Surroundings) : Except StartError Startup :=
  match Command.ofArguments surroundings.arguments surroundings.environment with
  | .error error => .error (.usage error)
  | .ok command =>
      if LogFilter.isValid command.logLevel then
        match Worker.ofConfig command.config .full with
        | .error error => .error (.setup error)
        | .ok worker => .ok ⟨command, worker⟩
      else .error .badFilter

/-- What a process leaves behind. -/
structure Report where
  code : UInt8
  output : List UInt8
  /-- What it says about its own end. -/
  notices : List String
  /-- Whether it complained about its log filter. -/
  badFilter : Bool
deriving Repr, DecidableEq

namespace Report

/-- The report of a process that did not start. -/
def ofError (environment : Variables) : StartError → Report
  | .usage .help => ⟨0, Text.Utf8.encode (Command.helpText environment).toList, [], false⟩
  | .badFilter => ⟨StartError.badFilter.exitCode, [], [], true⟩
  | error => ⟨error.exitCode, [], [], false⟩

/-- The report of a process whose parent is gone. -/
def orphaned (parent : UInt32) : Report :=
  ⟨orphanedCode, [], [orphanedNotice parent], false⟩

/-- The report of a worker that served a stream. -/
def ofServed (served : Served) : Report :=
  ⟨if served.failure.isNone then 0 else 1, served.outflow.written, [], false⟩

end Report

/-- The session of a process among the others, with the given input. -/
def Surroundings.session (surroundings : Surroundings) (table : ProcessTable)
    (input : List UInt8) : Report :=
  match surroundings.start with
  | .error error => .ofError surroundings.environment error
  | .ok startup =>
      if table.isAlive startup.command.parent then
        .ofServed (startup.worker.serve surroundings.environment ⟨input, none⟩ (.ofRoom none))
      else .orphaned startup.command.parent

end Whittle

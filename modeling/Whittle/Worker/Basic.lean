import Whittle.Json.Reader
import Whittle.Sandbox.Harness
import Whittle.Unicode.Word
import Whittle.Worker.Config
import Whittle.Worker.Message
import Whittle.Worker.Recycler

/-!
# Workers

A worker answers lines.  A line that holds no request is passed over; any other
one is answered by running both of its builds in the active container, and then
counted.
-/

namespace Whittle

/-- What the rest of the process lets a worker do when it has answered a request. -/
structure Interlude where
  /-- How many containers are created elsewhere. -/
  elsewhere : Nat
  /-- Whether another container can be created. -/
  canCreate : Bool
deriving Repr, DecidableEq

/-- Nothing goes on elsewhere. -/
def Interlude.quiet : Interlude := ⟨0, true⟩

variable [Engine]

/-- A worker. -/
structure Worker where
  harness : Harness
  recycler : Recycler
  /-- The beginnings of the names of variables that every response reports. -/
  envStarts : List String
  /-- The thread that the worker runs on. -/
  thread : Thread

namespace Worker

/-- A worker with a fresh container. -/
def ofConfig (config : WorkerConfig) (supply : Supply) (thread : Thread := .alone) :
    Except SetupError Worker := do
  let harness ← Harness.ofConfig config.sandbox
  return ⟨harness, .start config.sandbox config.recycleThreshold supply, config.envStarts, thread⟩

/-- The container that the next request runs in. -/
def containerId (worker : Worker) : ContainerId := worker.recycler.active.id

/-- The request in a line, if there is one. -/
def requestOf? (line : List Char) : Option RunRequest := do
  let json ← Json.ofText? (String.ofList (Unicode.trimBlanks line))
  RunRequest.ofJson? json

/-- Run both builds of a request, one after the other in one container. -/
def run (worker : Worker) (environment : Variables) (request : RunRequest) :
    RunResponse × Worker :=
  let (debug, container, thread) :=
    worker.harness.runBinaryOn worker.thread worker.recycler.active request.debug
  let (release, container, thread) :=
    worker.harness.runBinaryOn thread container request.release
  (.ofOutcomes debug release (environment.snapshot worker.envStarts),
    { worker with recycler := { worker.recycler with active := container }, thread })

/-- Answer the request in a line, if there is one. -/
def respond? (worker : Worker) (environment : Variables) (line : List Char) :
    Option (RunResponse × Worker) :=
  (requestOf? line).map (worker.run environment)

/--
Count a request that was answered.  If no other container can be created, the
active one stays in service.
-/
def finishRequest (worker : Worker) (interlude : Interlude) : Worker :=
  let counted := ((worker.recycler.elsewhere interlude.elsewhere).record interlude.canCreate).2
  { worker with recycler := counted.reclaim }

/-- Handle one line: the response, if the line holds a request, and the worker afterwards. -/
def handleLine (worker : Worker) (environment : Variables) (line : List Char)
    (interlude : Interlude := .quiet) : Option RunResponse × Worker :=
  match worker.respond? environment line with
  | none => (none, worker)
  | some (response, worker) => (some response, worker.finishRequest interlude)

end Worker

end Whittle

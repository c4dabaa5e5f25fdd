import Whittle.Fault.Outcome
import Whittle.Pattern.Reader
import Whittle.Sandbox.Container

/-!
# The harness

Runs entry points and classifies how they ended.  Panics come before the
failure that the call itself reports, and the first fault decides.
-/

namespace Whittle

/-- What keeps a sandbox from being set up. -/
inductive SetupError where
  /-- The assertion pattern is not a pattern. -/
  | assertionPattern
deriving Repr, DecidableEq

def SetupError.message : SetupError → String
  | .assertionPattern => "Invalid assertion pattern"

/-- What classifies runs: the pattern of messages that report a failed assertion. -/
structure Harness where
  matcher : Pattern

namespace Harness

def ofConfig (config : SandboxConfig) : Except SetupError Harness :=
  match Pattern.ofText? config.assertionPattern with
  | some matcher => .ok ⟨matcher⟩
  | none => .error .assertionPattern

/-- The outcome of a run, given the panics that were captured while it lasted. -/
def outcome (harness : Harness) (panics : List Fault) : Ending Container.CallResult → RunOutcome
  | .ended (.returned result) => .success result
  | .ended result => .ofFaults harness.matcher (panics ++ result.faults)
  | .panicked payload =>
      .ofFaults harness.matcher
        (if panics.isEmpty then [.plain .panic payload.message] else panics)

/-- The outcome of a guest that could not be loaded. -/
def loadOutcome (harness : Harness) (error : LoadError) : RunOutcome :=
  match error.panicMessage with
  | some message =>
      if harness.matcher.isMatch message then .assertionFailure message
      else .compilationError error.message
  | none => .compilationError error.message

/-- Capture the panics of a call on a thread, and classify how it ended. -/
def conclude (harness : Harness) (thread : Thread) (call : Attempt Container.CallResult) :
    RunOutcome × Thread :=
  let (panics, left) := thread.capturing call.panics
  (harness.outcome panics call.ending, left)

variable [Engine]

/-- Run an entry point in a container, on a thread. -/
def runOn (harness : Harness) (thread : Thread) (container : Container) (entry : EntryPoint) :
    RunOutcome × Container × Thread :=
  let (call, container) := container.invoke entry
  let (outcome, left) := harness.conclude thread call
  (outcome, container, left)

/-- Load a guest and run it, on a thread. -/
def runBinaryOn (harness : Harness) (thread : Thread) (container : Container)
    (bytes : List UInt8) : RunOutcome × Container × Thread :=
  match container.loadOn thread bytes with
  | (.ok entry, container, thread) => harness.runOn thread container entry
  | (.error error, container, thread) => (harness.loadOutcome error, container, thread)

/-- Run an entry point on a thread that is alone. -/
def run (harness : Harness) (container : Container) (entry : EntryPoint) : RunOutcome :=
  (harness.runOn .alone container entry).1

/-- Load a guest and run it on a thread that is alone. -/
def runBinary (harness : Harness) (container : Container) (bytes : List UInt8) :
    RunOutcome × Container :=
  let (outcome, container, _) := harness.runBinaryOn .alone container bytes
  (outcome, container)

end Harness

end Whittle

import Whittle.Fault.Outcome
import Whittle.Json.Writer
import Whittle.Text.Base64
import Whittle.Worker.Variables

/-!
# Messages

A request carries two builds of one program, as bytes in base64, and a response
tells how both of them ended.
-/

namespace Whittle

/-- Two builds of one program. -/
structure RunRequest where
  debug : List UInt8
  release : List UInt8
deriving Repr, DecidableEq

namespace RunRequest

def bytesToJson (bytes : List UInt8) : Json :=
  .str (String.ofList (Text.Base64.encode bytes))

def bytesOfJson? (json : Json) : Option (List UInt8) := do
  Text.Base64.decode? (← json.string?).toList

def toJson (request : RunRequest) : Json :=
  .obj [("Debug", bytesToJson request.debug), ("Release", bytesToJson request.release)]

/-- Read a request; both builds are required. -/
def ofJson? (json : Json) : Option RunRequest := do
  let [some debug, some release] ← json.slots? ["Debug", "Release"] | none
  return ⟨← bytesOfJson? debug.1, ← bytesOfJson? release.1⟩

end RunRequest

/-- How both builds of a request ended. -/
structure RunResponse where
  debugOutput : Int32
  debugError : Option String
  releaseOutput : Int32
  releaseError : Option String
  /-- Decided by whoever has a clock; a worker says no. -/
  isTimeout : Bool
  isJitAssert : Bool
  /-- Seen only from outside; a worker says no. -/
  hasCrashed : Bool
  environmentVariables : Variables

namespace RunResponse

/-- The response to two outcomes. -/
def ofOutcomes (debug release : RunOutcome) (environment : Variables) : RunResponse where
  debugOutput := debug.fingerprint.getD 0
  debugError := debug.errorMessage
  releaseOutput := release.fingerprint.getD 0
  releaseError := release.errorMessage
  isTimeout := false
  isJitAssert := debug.isAssertion || release.isAssertion
  hasCrashed := false
  environmentVariables := environment

/-- The names of the fields, in order. -/
def fieldNames : List String :=
  ["DebugOutput", "DebugError", "ReleaseOutput", "ReleaseError", "IsTimeout", "IsJitAssert",
    "HasCrashed", "EnvironmentVariables"]

def toJson (response : RunResponse) : Json :=
  .obj [("DebugOutput", .int response.debugOutput.toInt),
    ("DebugError", .ofOption .str response.debugError),
    ("ReleaseOutput", .int response.releaseOutput.toInt),
    ("ReleaseError", .ofOption .str response.releaseError),
    ("IsTimeout", .bool response.isTimeout), ("IsJitAssert", .bool response.isJitAssert),
    ("HasCrashed", .bool response.hasCrashed),
    ("EnvironmentVariables", response.environmentVariables.toJson)]

/-- A message that may be missing. -/
def messageOfSlot? {whole : Json} (slot : Option (Json.Part whole)) : Option (Option String) :=
  (Json.present slot).mapM fun part => part.1.string?

/-- Read a response; only the two messages may be missing. -/
def ofJson? (json : Json) : Option RunResponse := do
  let [some debugOutput, debugError, some releaseOutput, releaseError, some isTimeout,
    some isJitAssert, some hasCrashed, some environment] ← json.slots? fieldNames | none
  return {
    debugOutput := ← debugOutput.1.int32?
    debugError := ← messageOfSlot? debugError
    releaseOutput := ← releaseOutput.1.int32?
    releaseError := ← messageOfSlot? releaseError
    isTimeout := ← isTimeout.1.bool?
    isJitAssert := ← isJitAssert.1.bool?
    hasCrashed := ← hasCrashed.1.bool?
    environmentVariables := ← Variables.ofJson? environment.1 }

/-- A response in one line. -/
def toText (response : RunResponse) : String := response.toJson.toText

end RunResponse

end Whittle

import Whittle.Fault.Basic
import Whittle.Json.Record
import Whittle.Json.Words
import Whittle.Pattern.Basic

/-!
# Outcomes

How one run of one build ended, and how a failed run is classified.  The first
fault is the root cause; what was raised while it unwound is ignored.
-/

namespace Whittle

/-- How a run ended. -/
inductive RunOutcome where
  /-- The entry point returned. -/
  | success (fingerprint : Int32)
  /-- Someone with a clock gave up; runs themselves never say so. -/
  | timeout
  /-- An assertion inside the compiler under test failed. -/
  | assertionFailure (message : String)
  /-- Two successful runs differ; single runs never say so. -/
  | outputMismatch (debug release : Int32)
  | otherError (message : String)
  /-- The build could not be loaded. -/
  | compilationError (message : String)
deriving Repr, DecidableEq

namespace RunOutcome

def fingerprint : RunOutcome → Option Int32
  | .success fingerprint => some fingerprint
  | _ => none

/-- What is said of a failed run. -/
def errorMessage : RunOutcome → Option String
  | .assertionFailure message | .otherError message | .compilationError message => some message
  | .success _ | .timeout | .outputMismatch .. => none

def isAssertion : RunOutcome → Bool
  | .assertionFailure _ => true
  | _ => false

/-- The outcome of a failure with the given message, which decides whether an assertion failed. -/
def ofMessage (matcher : Pattern) (message : String) : RunOutcome :=
  if matcher.isMatch message then .assertionFailure message else .otherError message

/-- The outcome of a run that raised the given faults, oldest first. -/
def ofFaults (matcher : Pattern) : List Fault → RunOutcome
  | [] => .otherError "run failed without raising a fault"
  | root :: _ => ofMessage matcher root.cause.message

/-! ## Interchange -/

/-- The member that names the case. -/
def tagged (name : String) (fields : List (String × Json)) : Json :=
  .obj (("outcome", .str name) :: fields)

def toJson : RunOutcome → Json
  | .success fingerprint => tagged "success" [("fingerprint", .int fingerprint.toInt)]
  | .timeout => tagged "timeout" []
  | .assertionFailure message => tagged "assertion_failure" [("message", .str message)]
  | .outputMismatch debug release =>
      tagged "output_mismatch" [("debug", .int debug.toInt), ("release", .int release.toInt)]
  | .otherError message => tagged "other_error" [("message", .str message)]
  | .compilationError message => tagged "compilation_error" [("message", .str message)]

/-- Read the fields of a case from what is left without its name. -/
def ofFields? (name : String) (fields : Json) : Option RunOutcome := do
  match name with
  | "success" =>
      let [some fingerprint] ← fields.slots? ["fingerprint"] | none
      return .success (← fingerprint.1.int32?)
  | "timeout" =>
      match fields with
      | .obj _ | .arr [] => return .timeout
      | _ => none
  | "assertion_failure" =>
      let [some message] ← fields.slots? ["message"] | none
      return .assertionFailure (← message.1.string?)
  | "output_mismatch" =>
      let [some debug, some release] ← fields.slots? ["debug", "release"] | none
      return .outputMismatch (← debug.1.int32?) (← release.1.int32?)
  | "other_error" =>
      let [some message] ← fields.slots? ["message"] | none
      return .otherError (← message.1.string?)
  | "compilation_error" =>
      let [some message] ← fields.slots? ["message"] | none
      return .compilationError (← message.1.string?)
  | _ => none

/--
Read an outcome: an object with the name of the case among its members, or an
array that begins with it.  The rest is read as a whole before the case is
known, so nothing in it may be unreadable.
-/
def ofJson? (json : Json) : Option RunOutcome :=
  if !json.isReadable then none
  else
    match json with
    | .obj fields => do
        let some (some tag) := Json.slotNamed? "outcome" fields | none
        ofFields? (← tag.1.string?) (.obj (fields.filter (·.1 != "outcome")))
    | .arr (tag :: items) => do ofFields? (← tag.string?) (.arr items)
    | _ => none

end RunOutcome

end Whittle

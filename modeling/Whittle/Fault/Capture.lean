import Whittle.Fault.Basic

/-!
# Capturing panics

Panics are recorded for the threads that asked for it, each in a list of its
own, and fall through to whoever listened before on all others.  There is one
list for a thread: entering again starts it anew, and leaving any scope of the
thread removes it.
-/

namespace Whittle

/-- What a panic carries. -/
inductive Payload where
  | text (message : String)
  /-- Something that is not a text. -/
  | unknown
deriving Repr, DecidableEq

def Payload.message : Payload → String
  | .text message => message
  | .unknown => "unknown panic"

/-- How a panic is raised. -/
inductive Raise where
  /-- As a new panic, at a place in the program. -/
  | fresh (location : String)
  /-- As one that was caught before; nobody is told again. -/
  | resumed
deriving Repr, DecidableEq

/-- The recorded faults of each thread that captures, oldest first. -/
structure Capture where
  entries : List (Nat × List Fault)
deriving Repr

namespace Capture

/-- No thread captures. -/
def nobody : Capture := ⟨[]⟩

/-- The list of a thread, if it captures. -/
def faults? (capture : Capture) (thread : Nat) : Option (List Fault) :=
  capture.entries.lookup thread

def faults (capture : Capture) (thread : Nat) : List Fault :=
  (capture.faults? thread).getD []

def leave (capture : Capture) (thread : Nat) : Capture :=
  ⟨capture.entries.filter (·.1 != thread)⟩

def enter (capture : Capture) (thread : Nat) : Capture :=
  ⟨(thread, []) :: (capture.leave thread).entries⟩

/-- Leave and return what was recorded. -/
def finish (capture : Capture) (thread : Nat) : List Fault × Capture :=
  (capture.faults thread, capture.leave thread)

/-- The fault of a panic raised at a place. -/
def panicFault (payload : Payload) (location : String) : Fault :=
  .plain .panic (payload.message ++ " (at " ++ location ++ ")")

/-- Append a fault to the list of a thread. -/
def record (capture : Capture) (thread : Nat) (fault : Fault) : Capture :=
  ⟨capture.entries.map fun (other, faults) =>
    (other, if other = thread then faults ++ [fault] else faults)⟩

/-- A panic on a thread: whether it fell through, and what is captured afterwards. -/
def panic (capture : Capture) (thread : Nat) (payload : Payload) : Raise → Bool × Capture
  | .resumed => (false, capture)
  | .fresh location =>
      if (capture.faults? thread).isSome then
        (false, capture.record thread (panicFault payload location))
      else (true, capture)

@[simp]
theorem faults?_enter (capture : Capture) (thread : Nat) :
    (capture.enter thread).faults? thread = some [] := by
  simp [enter, faults?]

/-! ## Events -/

/-- What a thread does about its captures.  Its scopes are told apart by numbers. -/
inductive Act where
  | enter (scope : Nat)
  | panic (payload : Payload) (how : Raise)
  /-- Look at what has been recorded so far. -/
  | faults (scope : Nat)
  | finish (scope : Nat)
  | drop (scope : Nat)
deriving Repr, DecidableEq

/-- An act of one of the threads. -/
structure Event where
  thread : Nat
  act : Act
deriving Repr, DecidableEq

/-- What comes of an act. -/
inductive Reply where
  | done
  | recorded (faults : List Fault)
  /-- Whether the panic fell through to whoever listened before. -/
  | raised (fellThrough : Bool)
deriving Repr

/-- The faults that the thread is told of. -/
def Reply.faults : Reply → List Fault
  | .recorded faults => faults
  | _ => []

/-- What comes of an event, and the table afterwards. -/
def perform (capture : Capture) (event : Event) : Reply × Capture :=
  match event.act with
  | .enter _ => (.done, capture.enter event.thread)
  | .panic payload how =>
      let (fellThrough, after) := capture.panic event.thread payload how
      (.raised fellThrough, after)
  | .faults _ => (.recorded (capture.faults event.thread), capture)
  | .finish _ =>
      let (faults, after) := capture.finish event.thread
      -- A scope that is finished is dropped as well.
      (.recorded faults, after.leave event.thread)
  | .drop _ => (.done, capture.leave event.thread)

/-- The table after a history. -/
def after (capture : Capture) (history : List Event) : Capture :=
  history.foldl (fun capture event => (capture.perform event).2) capture

end Capture

end Whittle

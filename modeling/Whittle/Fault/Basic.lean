/-!
# Faults

What can go wrong while guest code runs, from the failure itself to the list of
faults that is looked at afterwards.  A failure has one root cause and the
contexts it passed through on its way out.
-/

namespace Whittle

/-- What sort of failure a fault is. -/
inductive FaultKind where
  /-- The host itself panicked. -/
  | panic
  /-- The guest did what its machine forbids. -/
  | trap
  /-- The guest raised an exception. -/
  | exception
  /-- The guest could not be started; the cause is inside. -/
  | initialization
  /-- Anything else on the side of the host. -/
  | error
deriving Repr, DecidableEq

namespace FaultKind

def all : List FaultKind := [.panic, .trap, .exception, .initialization, .error]

def name : FaultKind → String
  | .panic => "panic"
  | .trap => "trap"
  | .exception => "exception"
  | .initialization => "initialization"
  | .error => "error"

end FaultKind

/-- One failure seen during a run. -/
structure Fault where
  kind : FaultKind
  message : String
  inner : Option Fault
deriving Repr

namespace Fault

/-- A fault without another one inside. -/
def plain (kind : FaultKind) (message : String) : Fault :=
  ⟨kind, message, none⟩

/-- The fault of a guest that could not be started. -/
def initialization (cause : Fault) : Fault :=
  ⟨.initialization, "module initialization failed", some cause⟩

def text (fault : Fault) : String :=
  fault.kind.name ++ ": " ++ fault.message

/-- The fault that explains this one: what stopped a guest from starting, or the fault itself. -/
def cause (fault : Fault) : Fault :=
  match fault.kind, fault.inner with
  | .initialization, some inner => inner
  | _, _ => fault

end Fault

/-- What the machine of the guest forbids. -/
inductive Trap where
  | stackOverflow
  | memoryOutOfBounds
  | tableOutOfBounds
  | indirectCallToNull
  | badSignature
  | integerOverflow
  | integerDivisionByZero
  | badConversionToInteger
  | unreachableCodeReached
deriving Repr, DecidableEq

namespace Trap

def all : List Trap :=
  [.stackOverflow, .memoryOutOfBounds, .tableOutOfBounds, .indirectCallToNull, .badSignature,
    .integerOverflow, .integerDivisionByZero, .badConversionToInteger, .unreachableCodeReached]

def name : Trap → String
  | .stackOverflow => "StackOverflow"
  | .memoryOutOfBounds => "MemoryOutOfBounds"
  | .tableOutOfBounds => "TableOutOfBounds"
  | .indirectCallToNull => "IndirectCallToNull"
  | .badSignature => "BadSignature"
  | .integerOverflow => "IntegerOverflow"
  | .integerDivisionByZero => "IntegerDivisionByZero"
  | .badConversionToInteger => "BadConversionToInteger"
  | .unreachableCodeReached => "UnreachableCodeReached"

/-- What is said of a trap, after the words that all traps begin with. -/
def reason : Trap → String
  | .stackOverflow => "call stack exhausted"
  | .memoryOutOfBounds => "out of bounds memory access"
  | .tableOutOfBounds => "undefined element: out of bounds table access"
  | .indirectCallToNull => "uninitialized element"
  | .badSignature => "indirect call type mismatch"
  | .integerOverflow => "integer overflow"
  | .integerDivisionByZero => "integer divide by zero"
  | .badConversionToInteger => "invalid conversion to integer"
  | .unreachableCodeReached => "wasm `unreachable` instruction executed"

def message (trap : Trap) : String :=
  "wasm trap: " ++ trap.reason

end Trap

/-- The root cause of a failure. -/
inductive Cause where
  | exception (message : String)
  | trap (reason : Trap)
  | error (message : String)
deriving Repr, DecidableEq

namespace Cause

def fault : Cause → Fault
  | .exception message => .plain .exception message
  | .trap reason => .plain .trap reason.message
  | .error message => .plain .error message

end Cause

/-- A failure with the contexts it passed through, the innermost first. -/
structure Failure where
  root : Cause
  contexts : List String
deriving Repr, DecidableEq

namespace Failure

def ofCause (root : Cause) : Failure := ⟨root, []⟩

/-- The failure seen one context further out. -/
def within (failure : Failure) (context : String) : Failure :=
  { failure with contexts := failure.contexts ++ [context] }

/-- Every fault of a failure, the innermost first. -/
def chain (failure : Failure) : List Fault :=
  failure.root.fault :: failure.contexts.map (.plain .error)

/-- Every fault of a failure that kept a guest from starting. -/
def startChain (failure : Failure) : List Fault :=
  .initialization failure.root.fault :: failure.contexts.map (.plain .error)

end Failure

/-! ## Borders -/

/-- What keeps a guest from being linked with its host. -/
inductive LinkProblem where
  /-- The host has nothing of that name. -/
  | unknownImport (space name : String)
  /-- What the host has is not what the guest asks for. -/
  | importType (space name : String)
deriving Repr, DecidableEq

def LinkProblem.message : LinkProblem → String
  | .unknownImport space name =>
      "unknown import: `" ++ space ++ "::" ++ name ++ "` has not been defined"
  | .importType space name =>
      "incompatible import type for `" ++ space ++ "::" ++ name ++ "`"

/-- What keeps a function of a guest from being called. -/
inductive EntryProblem where
  /-- The guest shows no function of that name. -/
  | missing (name : String)
  /-- The function is not one that can be called so. -/
  | type (name : String)
deriving Repr, DecidableEq

def EntryProblem.message : EntryProblem → String
  | .missing name => "failed to find function export `" ++ name ++ "`"
  | .type name => "failed to convert function `" ++ name ++ "` to given type"

/-- Why code does not become an instance. -/
inductive InstanceError where
  /-- It could not be linked. -/
  | link (problem : LinkProblem)
  /-- It was linked, but it could not be brought up. -/
  | failed (failure : Failure)
deriving Repr, DecidableEq

end Whittle

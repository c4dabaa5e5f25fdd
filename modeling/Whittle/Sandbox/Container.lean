import Whittle.Fault.Thread
import Whittle.Sandbox.Engine
import Whittle.Text.Quoted

/-!
# Containers

A container holds every guest that was ever loaded into it, and a store for
their instances, until the container itself is given up.  Loading decides
everything that could keep a guest from being linked: an entry point is only
ever made for a guest whose imports are functions of the host and whose entry
function can be called.
-/

namespace Whittle

/-- What tells containers apart; later ones have greater numbers. -/
structure ContainerId where
  number : Nat
deriving Repr, DecidableEq

namespace ContainerId

def label : String := "container#"

/-- The identity in one word. -/
def text (id : ContainerId) : String := label ++ toString id.number

/-- The identity as a record. -/
def describe (id : ContainerId) : String := "ContainerId(" ++ toString id.number ++ ")"

end ContainerId

/-- Where identities come from: the number of the next one. -/
structure Supply where
  next : Nat
deriving Repr, DecidableEq

namespace Supply

/-- The supply that nothing was taken from. -/
def full : Supply := ⟨1⟩

def take (supply : Supply) : ContainerId × Supply :=
  (⟨supply.next⟩, ⟨supply.next + 1⟩)

end Supply

/-- Why a guest cannot be loaded. -/
inductive LoadError where
  | invalidModule (reason : String)
  /-- The compiler panicked while it worked on the guest. -/
  | compilerPanic (message : String)
  | unresolvedImport (space name : String)
  | missingEntryPoint (name : String)
  | entrySignature (name found : String)
deriving Repr, DecidableEq

namespace LoadError

def message : LoadError → String
  | .invalidModule reason => "Invalid module: " ++ reason
  | .compilerPanic message => "Compiler panicked: " ++ message
  | .unresolvedImport space name => "Unresolved import: " ++ space ++ "." ++ name
  | .missingEntryPoint name => "Entry point not found: " ++ name
  | .entrySignature name found =>
      "Entry point " ++ name ++ " has type " ++ found ++ ", expected () -> i32"

/-- What the compiler said when it panicked. -/
def panicMessage : LoadError → Option String
  | .compilerPanic message => some message
  | _ => none

end LoadError

variable [Engine]

/-- A function of a loaded guest that can be called. -/
structure EntryPoint where
  code : Engine.Code
  name : String
  /-- The container that the guest was loaded into. -/
  container : ContainerId

/-- The entry point as a record, with some of its fields. -/
def EntryPoint.describe (entry : EntryPoint) : String :=
  "EntryPoint \x7b name: " ++ String.ofList (Text.Quoted.string entry.name.toList) ++
    ", container: " ++ entry.container.describe ++ ", .. \x7d"

/-- A container. -/
structure Container where
  id : ContainerId
  /-- The name of the function that is called in guests. -/
  entryPoint : String
  optLevel : OptLevel
  /-- The guests, the latest first. -/
  guests : List Engine.Code
  store : Engine.Store

namespace Container

/-- A container without guests, with an identity from the supply. -/
def create (config : SandboxConfig) (supply : Supply) : Container × Supply :=
  let (id, supply) := supply.take
  (⟨id, config.entryPoint, config.optLevel, [], Engine.emptyStore⟩, supply)

def loaded (container : Container) : Nat := container.guests.length

/-- The container as a record, with some of its fields. -/
def describe (container : Container) : String :=
  "ExecutionContainer \x7b id: " ++ container.id.describe ++ ", loaded: " ++
    toString container.loaded ++ ", .. \x7d"

/-! ## Loading -/

/-- Where the imports of guests come from. -/
def hostSpace : String := "env"

/-- The names of what guests may import. -/
def hostImports : List String := ["throw", "log"]

/-- Whether functions of the type can be imported: two integers, and nothing in return. -/
def isHostSignature (type : Guest.FuncType) : Bool :=
  type.params.length == 2 && type.params.all (· == .i32) && type.results.length == 0

/-- Whether an import is a function of the host. -/
def isHostImport (item : Guest.ImportType) : Bool :=
  let known := item.space == hostSpace && hostImports.contains item.name
  let typed := match item.type with
    | .func type => isHostSignature type
    | _ => false
  known && typed

/-- Check the imports in order; the first one that is not of the host is the error. -/
def checkImports (imports : List Guest.ImportType) : Except LoadError Unit :=
  match imports.find? (!isHostImport ·) with
  | some item => .error (.unresolvedImport item.space item.name)
  | none => .ok ()

/-- Whether functions of the type can be called: they take nothing, and return one integer. -/
def isEntrySignature (type : Guest.FuncType) : Bool :=
  type.params.length == 0 && type.results == [.i32]

/-- Check what is shown under the name of the entry function. -/
def checkEntry (name : String) : Option Guest.ExternType → Except LoadError Unit
  | some (.func type) =>
      if isEntrySignature type then .ok ()
      else .error (.entrySignature name (Guest.ExternType.func type).text)
  | some other => .error (.entrySignature name other.text)
  | none => .error (.missingEntryPoint name)

/-- Check a compiled guest against what is there to link it with and to call in it. -/
def check (name : String) (code : Engine.Code) : Except LoadError Unit := do
  checkImports (Engine.imports code)
  checkEntry name (Engine.export? code name)

/-- The container with one guest more. -/
def add (container : Container) (code : Engine.Code) : Container :=
  { container with guests := code :: container.guests }

/--
Load a guest on a thread: its entry point or what is wrong with it, and the
container and the thread afterwards.  The compiler runs in a scope of its own.
-/
def loadOn (thread : Thread) (container : Container) (bytes : List UInt8) :
    Except LoadError EntryPoint × Container × Thread :=
  let compiled := Engine.compile container.optLevel bytes
  let thread := thread.muting compiled.panics
  match compiled.ending with
  | .panicked payload => (.error (.compilerPanic payload.message), container, thread)
  | .ended (.error reason) => (.error (.invalidModule reason), container, thread)
  | .ended (.ok code) =>
      match check container.entryPoint code with
      | .error error => (.error error, container, thread)
      | .ok () =>
          (.ok ⟨code, container.entryPoint, container.id⟩, container.add code, thread)

/-- Load a guest on a thread that is alone. -/
def load (container : Container) (bytes : List UInt8) :
    Except LoadError (EntryPoint × Container) :=
  let (loaded, after, _) := container.loadOn .alone bytes
  loaded.map fun entry => (entry, after)

/-! ## Calling -/

/-- What is said of an entry point of another container. -/
def foreignMessage : String := "cross-`Engine` instantiation is not currently supported"

/-- How a call of an entry point ends when nothing panics. -/
inductive CallResult where
  | returned (result : Int32)
  /-- The guest could not be linked. -/
  | notLinked (problem : LinkProblem)
  /-- The guest could not be brought up. -/
  | notStarted (failure : Failure)
  /-- The instance has no such function. -/
  | noEntry (problem : EntryProblem)
  | failed (failure : Failure)
deriving Repr, DecidableEq

namespace CallResult

def ofInstanceError : InstanceError → CallResult
  | .link problem => .notLinked problem
  | .failed failure => .notStarted failure

def ofCall : Except Failure Int32 → CallResult
  | .ok result => .returned result
  | .error failure => .failed failure

/-- The faults of a call that did not return, the innermost first. -/
def faults : CallResult → List Fault
  | .returned _ => []
  | .notLinked problem => [.initialization (.plain .error problem.message)]
  | .notStarted failure => failure.startChain
  | .noEntry problem => [.plain .error problem.message]
  | .failed failure => failure.chain

end CallResult

/-- Call a function of an instance: how the call ends, and the store afterwards. -/
def callIn (store : Engine.Store) (inst : Engine.Inst) (name : String) :
    Attempt CallResult × Engine.Store :=
  match Engine.func? store inst name Guest.entryType with
  | .error problem => (.quiet (.noEntry problem), store)
  | .ok func =>
      let (called, store) := Engine.call store func
      (called.map .ofCall, store)

/-- Bring a guest up in a store and call a function of it. -/
def callGuest (store : Engine.Store) (code : Engine.Code) (name : String) :
    Attempt CallResult × Engine.Store :=
  let (started, store) := Engine.instantiate .host store code
  match started.ending with
  | .panicked payload => (⟨started.panics, .panicked payload⟩, store)
  | .ended (.error error) => (⟨started.panics, .ended (.ofInstanceError error)⟩, store)
  | .ended (.ok inst) =>
      let (called, store) := callIn store inst name
      (called.after started.panics, store)

/-- Bring up the guest of an entry point and call the function. -/
def invoke (container : Container) (entry : EntryPoint) : Attempt CallResult × Container :=
  if entry.container = container.id then
    let (called, store) := callGuest container.store entry.code entry.name
    (called, { container with store })
  else (.quiet (.notStarted (.ofCause (.error foreignMessage))), container)

end Container

end Whittle

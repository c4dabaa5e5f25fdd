import Whittle.Guest.Binary
import Whittle.Guest.Run
import Whittle.Guest.Typing
import Whittle.Sandbox.Engine

/-!
# The interpreter as an engine

Guests are compiled by reading them, and run by interpreting them.  A store is a
row of instances, each with its globals.  Nothing panics.
-/

namespace Whittle

/-- Instances are told apart by their places. -/
abbrev InterpreterStore : Type := List (Guest.Instance × List Guest.Value)

namespace InterpreterStore

/-- The function that the instance at a place shows under a name, if it has the type. -/
def func? (store : InterpreterStore) (place : Nat) (name : String) (type : Guest.FuncType) :
    Except EntryProblem (Nat × Nat) :=
  match store[place]? with
  | none => .error (.missing name)
  | some (inst, _) => (inst.guest.func? name type).map fun func => (place, func)

/-- Call a function of the instance at a place. -/
def call (store : InterpreterStore) (func : Nat × Nat) : Except Failure Int32 :=
  match store[func.1]? with
  | none => .error (.ofCause (.error "no such instance"))
  | some (inst, globals) => (inst.callEntry globals func.2).mapError .ofCause

end InterpreterStore

/-- Read a guest, if it is well formed. -/
def Guest.Module.ofBytes (bytes : List UInt8) :
    Except String { guest : Guest.Module // guest.isValid = true } :=
  match Guest.Binary.module? bytes with
  | none => .error "the bytes are not a module"
  | some guest =>
      if valid : guest.isValid = true then .ok ⟨guest, valid⟩
      else .error "the module is not well formed"

instance interpreter : Engine where
  Code := { guest : Guest.Module // guest.isValid = true }
  Store := InterpreterStore
  Inst := Nat
  Func := Nat × Nat
  compile _ bytes := .quiet (Guest.Module.ofBytes bytes)
  imports code := code.1.imports.map code.1.importType
  export? code name := (code.1.export? name).map code.1.exportType
  emptyStore := []
  instantiate linker store code :=
    match code.1.instantiate linker with
    | .error error => (.quiet (.error error), store)
    | .ok up => (.quiet (.ok store.length), store ++ [up])
  func? := InterpreterStore.func?
  call store func := (.quiet (store.call func), store)

end Whittle

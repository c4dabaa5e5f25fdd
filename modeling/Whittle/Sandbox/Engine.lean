import Whittle.Fault.Attempt
import Whittle.Guest.Linker
import Whittle.Sandbox.Config

/-!
# Engines

An engine compiles guests and runs them.  Containers, harnesses and workers use
one as it is: what they rely on is that it links imports by their names and
types, and that what is already in a store does not show in what is added to it.
-/

namespace Whittle

/--
An engine.  Its compiler and everything that runs in a store may fail, and may
panic as well.
-/
class Engine where
  /-- Compiled guests. -/
  Code : Type
  /-- What holds the instances of guests. -/
  Store : Type
  /-- Instances in a store. -/
  Inst : Type
  /-- Functions of instances, with a type that they were asked for by. -/
  Func : Type
  /-- Compile a guest from its bytes, or say what is wrong with them. -/
  compile (level : OptLevel) (bytes : List UInt8) : Attempt (Except String Code)
  /-- What a guest asks for, in order. -/
  imports (code : Code) : List Guest.ImportType
  /-- The type of what a guest shows under a name. -/
  export? (code : Code) (name : String) : Option Guest.ExternType
  emptyStore : Store
  /-- Link a guest and bring it up in a store. -/
  instantiate (linker : Guest.Linker) (store : Store) (code : Code) :
    Attempt (Except InstanceError Inst) × Store
  /-- The function that an instance shows under a name, if it has the type. -/
  func? (store : Store) (inst : Inst) (name : String) (type : Guest.FuncType) :
    Except EntryProblem Func
  /-- Call a function that takes nothing and returns one integer. -/
  call (store : Store) (func : Func) : Attempt (Except Failure Int32) × Store

namespace Engine

variable [Engine]

/-! ## What is relied on -/

/--
Imports are resolved by their names and types: only one that the linker does not
resolve keeps a guest from being linked.  What a guest shows under a name, its
instances show with the same type.
-/
structure LinksByName : Prop where
  unresolved : ∀ linker store (code : Code) problem,
    (instantiate linker store code).1.ending = .ended (.error (.link problem)) →
    ∃ item ∈ imports code, linker.resolve item = .error problem
  shown : ∀ linker store (code : Code) inst name type,
    (instantiate linker store code).1.ending = .ended (.ok inst) →
    export? code name = some (.func type) →
    ∃ func, func? (instantiate linker store code).2 inst name type = .ok func

end Engine

end Whittle

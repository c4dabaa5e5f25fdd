import Whittle.Fault.Basic
import Whittle.Guest.Signature

/-!
# Linking

A linker knows functions of the host by the names and the types that guests ask
for.
-/

namespace Whittle.Guest

/-- The functions that guests may import. -/
inductive HostFunc where
  /-- Raise an exception with a text of the guest. -/
  | raise
  /-- Pass on a text of the guest as a diagnostic. -/
  | log
deriving Repr, DecidableEq

namespace HostFunc

def all : List HostFunc := [.raise, .log]

/-- Where all functions of the host come from. -/
def space : String := "env"

def name : HostFunc → String
  | .raise => "throw"
  | .log => "log"

/-- The type of every function of the host. -/
def type : FuncType := ⟨[.i32, .i32], []⟩

end HostFunc

/-- A function of the host under the names that it is asked for by. -/
structure Definition where
  space : String
  name : String
  type : FuncType
  func : HostFunc
deriving Repr, DecidableEq

/-- What is defined for guests. -/
structure Linker where
  definitions : List Definition
deriving Repr, DecidableEq

namespace Linker

/-- The linker that knows all functions of the host. -/
def host : Linker :=
  ⟨HostFunc.all.map fun func => ⟨HostFunc.space, func.name, HostFunc.type, func⟩⟩

/-- What is defined under two names. -/
def find? (linker : Linker) (space name : String) : Option Definition :=
  linker.definitions.find? fun item => item.space = space ∧ item.name = name

/-- The function that an import stands for, by its names and its type. -/
def resolve (linker : Linker) (item : ImportType) : Except LinkProblem HostFunc :=
  match linker.find? item.space item.name with
  | none => .error (.unknownImport item.space item.name)
  | some found =>
      if item.type = .func found.type then .ok found.func
      else .error (.importType item.space item.name)

end Linker

end Whittle.Guest

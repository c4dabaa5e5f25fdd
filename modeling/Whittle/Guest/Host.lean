import Whittle.Guest.Linker
import Whittle.Guest.Memory
import Whittle.Guest.Module
import Whittle.Text.Utf8

/-!
# Functions of the host

Two functions can be imported by guests.  Both take the address and the length
of a text in the memory that the guest exports.  Linking a guest gives each of
its imports the function it names.
-/

namespace Whittle.Guest

/-- The name under which a guest shows its memory. -/
def memoryExport : String := "memory"

/-- What is said of a guest that does not show its memory. -/
def noMemoryMessage : String := "guest does not export its memory"

/-- What is said of an address or a length below zero. -/
def negativeMessage : String := "number too small to fit in target type"

/-- What is said of a text that does not lie inside the memory. -/
def outsideMessage (start stop : Nat) : String :=
  "guest string " ++ toString start ++ ".." ++ toString stop ++ " is out of bounds"

/-- Read a text out of the memory that the guest exports. -/
def guestText (exported : Option Memory) (address length : Int32) : Except Cause String :=
  match exported with
  | none => .error (.error noMemoryMessage)
  | some memory =>
      if address.toInt < 0 ∨ length.toInt < 0 then .error (.error negativeMessage)
      else
        let start := address.toInt.toNat
        let count := length.toInt.toNat
        match memory.read? start count with
        | none => .error (.error (outsideMessage start (start + count)))
        | some bytes => .ok (String.ofList (Text.Utf8.decodeLossy bytes))

def HostFunc.call (func : HostFunc) (exported : Option Memory) (address length : Int32) :
    Except Cause Unit :=
  match guestText exported address length, func with
  | .error cause, _ => .error cause
  | .ok text, .raise => .error (.exception text)
  | .ok _, .log => .ok ()

/-! ## Linking -/

/-- The functions that the imports of the guest stand for, in order. -/
def Module.links? (guest : Module) (linker : Linker) : Except LinkProblem (List HostFunc) :=
  guest.imports.mapM fun item => linker.resolve (guest.importType item)

end Whittle.Guest

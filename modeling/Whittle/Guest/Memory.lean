/-!
# Linear memory

The memory of a guest is a row of zeros with pieces copied into it.  Nothing
writes to it after the guest has been brought up, so the pieces are all there is
to remember.
-/

namespace Whittle.Guest

def pageSize : Nat := 65536

/-- A memory of zeros with pieces copied into it, the latest first. -/
structure Memory where
  size : Nat
  pieces : List (Nat × List UInt8)
deriving Repr, DecidableEq

namespace Memory

def zeros (pages : Nat) : Memory := ⟨pages * pageSize, []⟩

/-- The byte at an address inside the memory. -/
def byteAt (memory : Memory) (address : Nat) : UInt8 :=
  match memory.pieces.find? fun (start, bytes) =>
    start ≤ address && address < start + bytes.length with
  | some (start, bytes) => bytes.getD (address - start) 0
  | none => 0

/-- The bytes from an address on, if they all lie inside the memory. -/
def read? (memory : Memory) (address count : Nat) : Option (List UInt8) :=
  if address + count ≤ memory.size then
    some ((List.range count).map fun i => memory.byteAt (address + i))
  else none

/-- Copy bytes to an address, if they all fit. -/
def write? (memory : Memory) (address : Nat) (bytes : List UInt8) : Option Memory :=
  if address + bytes.length ≤ memory.size then
    some { memory with pieces := (address, bytes) :: memory.pieces }
  else none

@[simp]
theorem read?_eq_none_iff (memory : Memory) (address count : Nat) :
    memory.read? address count = none ↔ memory.size < address + count := by
  simp [read?]

@[simp]
theorem write?_eq_none_iff (memory : Memory) (address : Nat) (bytes : List UInt8) :
    memory.write? address bytes = none ↔ memory.size < address + bytes.length := by
  simp [write?]

end Memory

end Whittle.Guest

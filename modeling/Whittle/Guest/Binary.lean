import Whittle.Guest.Module
import Whittle.Text.Utf8

/-!
# The binary form of guest modules

A module is a header and a row of sections, each with its length before it.
Readers take bytes off the front and fail on anything that is not well formed.
-/

namespace Whittle.Guest.Binary

/-- A reader takes bytes off the front. -/
abbrev Reader := StateT (List UInt8) Option

def byte : Reader Nat := fun
  | [] => none
  | first :: rest => some (first.toNat, rest)

/-- Read one given byte. -/
def expect (value : Nat) : Reader Unit := do
  if (← byte) ≠ value then failure

def bytes (count : Nat) : Reader (List UInt8) := fun input =>
  if count ≤ input.length then some (input.take count, input.drop count) else none

/-- Read with one reader to the end of the given bytes. -/
def whole {α : Type} (reader : Reader α) (input : List UInt8) : Option α :=
  match reader input with
  | some (value, []) => some value
  | _ => none

def times {α : Type} (reader : Reader α) : Nat → Reader (List α)
  | 0 => pure []
  | count + 1 => do
      let first ← reader
      let rest ← times reader count
      return first :: rest

/-! ## Numbers -/

/--
Read an unsigned number of at most `bits` bits in groups of seven, the lowest
first.  The last byte holds no bits beyond the width.
-/
def unsigned : Nat → Reader Nat
  | bits => go bits bits
where
  /-- The groups that are left, when `left` bits are still to come. -/
  go : Nat → Nat → Reader Nat
    | 0, _ => failure
    | fuel + 1, left => do
        let group ← byte
        if group < 128 then
          if left < 7 ∧ 1 <<< left ≤ group then failure
          return group
        else if left ≤ 7 then failure
        else
          let high ← go fuel (left - 7)
          return (group - 128) + 128 * high

/--
Read a signed number of at most `bits` bits in groups of seven, the lowest
first.  The bits of the last byte beyond the width repeat the sign.
-/
def signed : Nat → Reader Int
  | bits => go bits bits
where
  /-- The groups that are left, when `left` bits are still to come. -/
  go : Nat → Nat → Reader Int
    | 0, _ => failure
    | fuel + 1, left => do
        let group ← byte
        if group < 128 then
          let value : Int := if group < 64 then group else (group : Int) - 128
          let bound := Int.ofNat (1 <<< (left - 1))
          if left < 7 ∧ (value < -bound ∨ bound ≤ value) then failure
          return value
        else if left ≤ 7 then failure
        else
          let high ← go fuel (left - 7)
          return (group - 128 : Nat) + 128 * high

/-- Read an index, a count or a size. -/
def u32 : Reader Nat := unsigned 32

/-- Read a list with its length before it. -/
def vector {α : Type} (reader : Reader α) : Reader (List α) := do
  times reader (← u32)

/-- Read bytes with their number before them. -/
def blob : Reader (List UInt8) := do
  bytes (← u32)

/-- Read a name, which must be UTF-8. -/
def name : Reader String := do
  let encoded ← blob
  let text := Text.Utf8.decodeLossy encoded
  if Text.Utf8.encode text = encoded then return String.ofList text else failure

/-! ## Types -/

def valueType : Reader ValueType := do
  match ← byte with
  | 0x7f => return .i32
  | 0x7e => return .i64
  | 0x7d => return .f32
  | 0x7c => return .f64
  | 0x7b => return .v128
  | 0x70 => return .funcRef
  | 0x6f => return .externRef
  | _ => failure

def refType : Reader ValueType := do
  match ← byte with
  | 0x70 => return .funcRef
  | 0x6f => return .externRef
  | _ => failure

def funcType : Reader FuncType := do
  expect 0x60
  return ⟨← vector valueType, ← vector valueType⟩

def limits : Reader Limits := do
  match ← byte with
  | 0 => return ⟨← u32, none⟩
  | 1 => return ⟨← u32, some (← u32)⟩
  | _ => failure

def flag : Reader Bool := do
  match ← byte with
  | 0 => return false
  | 1 => return true
  | _ => failure

def globalType : Reader GlobalType := do
  return ⟨← valueType, ← flag⟩

def tableType : Reader (ValueType × Limits) := do
  return (← refType, ← limits)

/-! ## Instructions -/

/-- Read the instruction that begins with the given byte. -/
def instrOf (opcode : Nat) : Reader Instr := do
  match opcode with
  | 0x00 => return .unreachable
  | 0x10 => return .call (← u32)
  | 0x11 => return .callIndirect (← u32) (← u32)
  | 0x1a => return .drop
  | 0x23 => return .globalGet (← u32)
  | 0x24 => return .globalSet (← u32)
  | 0x28 => return .i32Load (← u32) (← u32)
  | 0x41 => return .i32Const (Int32.ofInt (← signed 32))
  | 0x42 => return .i64Const (Int64.ofInt (← signed 64))
  | 0x43 =>
      let pattern ← bytes 4
      return .f32Const (UInt32.ofNat (pattern.foldr (fun low high => low.toNat + 256 * high) 0))
  | 0x6a => return .i32Add
  | 0x6d => return .i32DivS
  | _ => failure

/-- Read instructions up to the byte that ends them; each takes at least one byte. -/
def instrsUpTo : Nat → Reader (List Instr)
  | 0 => failure
  | fuel + 1 => do
      let opcode ← byte
      if opcode = 0x0b then return []
      let first ← instrOf opcode
      let rest ← instrsUpTo fuel
      return first :: rest

/-- Read instructions and what ends them. -/
def instrs : Reader (List Instr) := fun input =>
  instrsUpTo input.length input

/-! ## Sections -/

def importItem : Reader Import := do
  let space ← name
  let item ← name
  match ← byte with
  | 0 => return ⟨space, item, .func (← u32)⟩
  | 1 =>
      let (elements, bounds) ← tableType
      return ⟨space, item, .table elements bounds⟩
  | 2 => return ⟨space, item, .memory (← limits)⟩
  | 3 => return ⟨space, item, .global (← globalType)⟩
  | _ => failure

def exportItem : Reader Export := do
  let item ← name
  let kind ← match ← byte with
    | 0 => pure ExportKind.func
    | 1 => pure .table
    | 2 => pure .memory
    | 3 => pure .global
    | _ => failure
  return ⟨item, kind, ← u32⟩

def globalItem : Reader Global := do
  return ⟨← globalType, ← instrs⟩

/-- Read a run of local variables of one type. -/
def localRun : Reader (Nat × ValueType) := do
  return (← u32, ← valueType)

def codeBody : Reader Code := do
  return ⟨← vector localRun, ← instrs⟩

/-- Read a function, with its size before it. -/
def codeItem : Reader Code := do
  let body ← blob
  match whole codeBody body with
  | some code => return code
  | none => failure

def segment : Reader Segment := do
  match ← u32 with
  | 0 => return ⟨0, ← instrs, ← blob⟩
  | 2 => return ⟨← u32, ← instrs, ← blob⟩
  | _ => failure

/-- The place of a section among the others; each appears at most once, in this order. -/
def sectionPlace? (id : Nat) : Option Nat :=
  [1, 2, 3, 4, 5, 6, 7, 8, 12, 10, 11].idxOf? id

/-- Read the content of a section into the module. -/
def sectionContent (id : Nat) (content : List UInt8) (guest : Module) : Option Module :=
  match id with
  | 1 => (whole (vector funcType) content).map fun types => { guest with types }
  | 2 => (whole (vector importItem) content).map fun imports => { guest with imports }
  | 3 => (whole (vector u32) content).map fun funcs => { guest with funcs }
  | 4 => (whole (vector tableType) content).map fun tables => { guest with tables }
  | 5 => (whole (vector limits) content).map fun memories => { guest with memories }
  | 6 => (whole (vector globalItem) content).map fun globals => { guest with globals }
  | 7 => (whole (vector exportItem) content).map fun exports => { guest with exports }
  | 8 => (whole u32 content).map fun start => { guest with start := some start }
  | 10 => (whole (vector codeItem) content).map fun code => { guest with code }
  | 11 => (whole (vector segment) content).map fun segments => { guest with segments }
  | 12 => (whole u32 content).map fun count => { guest with segmentCount := some count }
  | _ => none

/-- Read one section: the module with it, and the place of the section. -/
def oneSection (place : Nat) (guest : Module) : Reader (Nat × Module) := do
  let id ← byte
  let content ← blob
  if id = 0 then
    match name content with
    | some _ => return (place, guest)
    | none => failure
  else
    match sectionPlace? id, sectionContent id content guest with
    | some here, some guest => if place ≤ here then return (here + 1, guest) else failure
    | _, _ => failure

/-- Read sections to the end; each takes at least two bytes. -/
def sections : Nat → Nat → Module → List UInt8 → Option Module
  | _, _, guest, [] => some guest
  | 0, _, _, _ => none
  | fuel + 1, place, guest, input =>
      match oneSection place guest input with
      | none => none
      | some ((place, guest), rest) => sections fuel place guest rest

/-- The magic number and the version. -/
def header : List UInt8 := [0, 97, 115, 109, 1, 0, 0, 0]

def module? (input : List UInt8) : Option Module :=
  if header.isPrefixOf input then
    sections input.length 0 .empty (input.drop header.length)
  else none

end Whittle.Guest.Binary

import Whittle.Guest.Host

/-!
# Running guest modules

A module is brought up by linking its imports, computing its globals, copying
its segments into a memory of zeros and calling its start function; then any of
its functions can be called.  Calls nest to a fixed depth, which is all that
keeps a guest from running for ever.
-/

namespace Whittle.Guest

/-- Values. -/
inductive Value where
  | i32 (value : Int32)
  | i64 (value : Int64)
  | f32 (bits : UInt32)
deriving Repr, DecidableEq

/-! ## Instances -/

/-- A module with what its imports stand for and its memories. -/
structure Instance where
  guest : Module
  hosts : List HostFunc
  memories : List Memory

/-- The values that instructions work on: the stack, top first, and the globals. -/
structure State where
  stack : List Value
  globals : List Value
deriving Repr, DecidableEq

def Instance.exportedMemory (inst : Instance) : Option Memory := do
  let item ← inst.guest.export? memoryExport
  if item.kind = .memory then inst.memories[item.index]? else none

/-! ## Instructions -/

/-- What happens where well-formed code cannot get. -/
def stuck {α : Type} : Except Cause α :=
  .error (.error "guest code is not well formed")

/-- Divide with a quotient toward zero. -/
def divS (dividend divisor : Int32) : Except Cause Int32 :=
  if divisor = 0 then .error (.trap .integerDivisionByZero)
  else if dividend = Int32.minValue ∧ divisor = -1 then .error (.trap .integerOverflow)
  else .ok (dividend / divisor)

/-- Read a 32-bit integer from memory, lowest byte first. -/
def load (inst : Instance) (base : Int32) (offset : Nat) : Except Cause Int32 :=
  match inst.memories with
  | [] => stuck
  | memory :: _ =>
      match memory.read? (base.toUInt32.toNat + offset) 4 with
      | none => .error (.trap .memoryOutOfBounds)
      | some bytes =>
          .ok (Int32.ofNat (bytes.foldr (fun low high => low.toNat + 256 * high) 0))

/-- Look an element up in a table that holds nothing. -/
def lookup {α : Type} (inst : Instance) (table : Nat) (index : Int32) : Except Cause α :=
  match inst.guest.allTables[table]? with
  | none => stuck
  | some (_, limits) =>
      if index.toUInt32.toNat < limits.least then .error (.trap .indirectCallToNull)
      else .error (.trap .tableOutOfBounds)

/-- How functions are called: with a stack and globals, which they leave changed. -/
abbrev Caller := Nat → State → Except Cause State

def step (inst : Instance) (call : Caller) (state : State) : Instr → Except Cause State
  | .unreachable => .error (.trap .unreachableCodeReached)
  | .call func => call func state
  | .callIndirect _ table =>
      match state.stack with
      | .i32 index :: _ => lookup inst table index
      | _ => stuck
  | .drop =>
      match state.stack with
      | _ :: stack => .ok { state with stack }
      | [] => stuck
  | .globalGet index =>
      match state.globals[index]? with
      | some value => .ok { state with stack := value :: state.stack }
      | none => stuck
  | .globalSet index =>
      match state.stack with
      | value :: stack => .ok ⟨stack, state.globals.set index value⟩
      | [] => stuck
  | .i32Load _ offset =>
      match state.stack with
      | .i32 base :: stack => do
          return { state with stack := .i32 (← load inst base offset) :: stack }
      | _ => stuck
  | .i32Const value => .ok { state with stack := .i32 value :: state.stack }
  | .i64Const value => .ok { state with stack := .i64 value :: state.stack }
  | .f32Const bits => .ok { state with stack := .f32 bits :: state.stack }
  | .i32Add =>
      match state.stack with
      | .i32 right :: .i32 left :: stack =>
          .ok { state with stack := .i32 (left + right) :: stack }
      | _ => stuck
  | .i32DivS =>
      match state.stack with
      | .i32 right :: .i32 left :: stack => do
          return { state with stack := .i32 (← divS left right) :: stack }
      | _ => stuck

def runAll (inst : Instance) (call : Caller) : List Instr → State → Except Cause State
  | [], state => .ok state
  | instr :: rest, state => do
      let next ← step inst call state instr
      runAll inst call rest next

/-! ## Calls -/

/-- Call a function of the host with the arguments on the stack. -/
def callHost (inst : Instance) (host : HostFunc) (state : State) : Except Cause State :=
  match state.stack with
  | .i32 length :: .i32 address :: stack => do
      host.call inst.exportedMemory address length
      return { state with stack }
  | _ => stuck

def greatestDepth : Nat := 4096

/-- Call a function, with the arguments on the stack, when calls may nest so much deeper. -/
def callAt (inst : Instance) : Nat → Caller
  | 0, _, _ => .error (.trap .stackOverflow)
  | depth + 1, func, state =>
      match inst.hosts[func]?, inst.guest.funcType? func,
          inst.guest.code[func - inst.hosts.length]? with
      | some host, _, _ => callHost inst host state
      | none, some type, some code => do
          let after ← runAll inst (callAt inst depth) code.body ⟨[], state.globals⟩
          return ⟨after.stack ++ state.stack.drop type.params.length, after.globals⟩
      | _, _, _ => stuck

/-! ## Bringing a module up -/

/-- No functions can be called where constants are computed. -/
def noCalls : Caller := fun _ _ => stuck

/-- Compute a constant from the globals so far. -/
def constant (guest : Module) (globals : List Value) (body : List Instr) :
    Except Cause Value := do
  let state ← runAll ⟨guest, [], []⟩ noCalls body ⟨[], globals⟩
  match state.stack with
  | value :: _ => return value
  | [] => stuck

def firstGlobals (guest : Module) : List Global → List Value → Except Cause (List Value)
  | [], globals => .ok globals
  | global :: rest, globals => do
      let value ← constant guest globals global.init
      firstGlobals guest rest (globals ++ [value])

/-- Copy the segments into the memories, in order. -/
def fill (guest : Module) (globals : List Value) :
    List Segment → List Memory → Except Cause (List Memory)
  | [], memories => .ok memories
  | segment :: rest, memories => do
      match ← constant guest globals segment.offset, memories[segment.memory]? with
      | .i32 offset, some memory =>
          match memory.write? offset.toUInt32.toNat segment.bytes with
          | some written => fill guest globals rest (memories.set segment.memory written)
          | none => .error (.trap .memoryOutOfBounds)
      | _, _ => stuck

/-- Bring up a module whose imports stand for the given functions. -/
def Module.bringUp (guest : Module) (hosts : List HostFunc) :
    Except Cause (Instance × List Value) := do
  let globals ← firstGlobals guest guest.globals []
  let memories ← fill guest globals guest.segments
    (guest.allMemories.map fun limits => .zeros limits.least)
  let inst : Instance := ⟨guest, hosts, memories⟩
  match guest.start with
  | none => return (inst, globals)
  | some func => do
      let state ← callAt inst greatestDepth func ⟨[], globals⟩
      return (inst, state.globals)

/-- Link a module and bring it up: its instance, and the globals after its start function. -/
def Module.instantiate (guest : Module) (linker : Linker) :
    Except InstanceError (Instance × List Value) :=
  match guest.links? linker with
  | .error problem => .error (.link problem)
  | .ok hosts => (guest.bringUp hosts).mapError fun cause => .failed (.ofCause cause)

/-! ## Entry points -/

/-- The index of the function that is shown under a name, if it has the type. -/
def Module.func? (guest : Module) (name : String) (type : FuncType) : Except EntryProblem Nat :=
  match guest.export? name with
  | none => .error (.missing name)
  | some item =>
      if guest.exportType item = .func type then .ok item.index else .error (.type name)

/-- Call a function that returns one integer. -/
def Instance.callEntry (inst : Instance) (globals : List Value) (func : Nat) :
    Except Cause Int32 := do
  let state ← callAt inst greatestDepth func ⟨[], globals⟩
  match state.stack with
  | .i32 result :: _ => return result
  | _ => stuck

end Whittle.Guest

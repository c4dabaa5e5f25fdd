import Whittle.Guest.Module

/-!
# Well-formed guest modules

Every index is in range, every function leaves exactly its results, and every
name is exported once.  After an instruction that never returns the stack may
hold anything.
-/

namespace Whittle.Guest

/-- What is known of the stack: the types on top, and whether anything may lie below. -/
structure StackType where
  known : List ValueType
  anything : Bool
deriving Repr, DecidableEq

namespace StackType

def empty : StackType := ⟨[], false⟩

def push (stack : StackType) (type : ValueType) : StackType :=
  { stack with known := type :: stack.known }

/-- Put types on top, the last one uppermost. -/
def pushAll (stack : StackType) (types : List ValueType) : StackType :=
  types.foldl push stack

def pop? (stack : StackType) (type : ValueType) : Option StackType :=
  match stack.known with
  | top :: rest => if top = type then some { stack with known := rest } else none
  | [] => if stack.anything then some stack else none

/-- Take types off the top, the last one first. -/
def popAll? (stack : StackType) (types : List ValueType) : Option StackType :=
  types.reverse.foldlM pop? stack

def popAny? (stack : StackType) : Option StackType :=
  match stack.known with
  | _ :: rest => some { stack with known := rest }
  | [] => if stack.anything then some stack else none

/-- Apply something of a function type. -/
def through? (stack : StackType) (type : FuncType) : Option StackType :=
  (stack.popAll? type.params).map (·.pushAll type.results)

end StackType

namespace Module

/-- The stack after one instruction. -/
def instrType? (guest : Module) (stack : StackType) : Instr → Option StackType
  | .unreachable => some ⟨[], true⟩
  | .call func => do stack.through? (← guest.funcType? func)
  | .callIndirect type table => do
      let (elements, _) ← guest.allTables[table]?
      if elements ≠ .funcRef then none
      else (← stack.pop? .i32).through? (← guest.types[type]?)
  | .drop => stack.popAny?
  | .globalGet index => do return stack.push (← guest.globalTypes[index]?).type
  | .globalSet index => do
      let global ← guest.globalTypes[index]?
      if global.mutable then stack.pop? global.type else none
  | .i32Load align _ =>
      if guest.allMemories.isEmpty ∨ 2 < align then none
      else stack.through? ⟨[.i32], [.i32]⟩
  | .i32Const _ => some (stack.push .i32)
  | .i64Const _ => some (stack.push .i64)
  | .f32Const _ => some (stack.push .f32)
  | .i32Add | .i32DivS => stack.through? ⟨[.i32, .i32], [.i32]⟩

/-- Whether instructions leave exactly the given results. -/
def leaves (guest : Module) (body : List Instr) (results : List ValueType) : Bool :=
  match body.foldlM guest.instrType? .empty with
  | none => false
  | some stack =>
      match stack.popAll? results with
      | none => false
      | some rest => rest.known.isEmpty

/-- Whether an instruction can stand where a constant is computed. -/
def isConstant (guest : Module) (globals : Nat) : Instr → Bool
  | .i32Const _ | .i64Const _ | .f32Const _ | .i32Add => true
  | .globalGet index =>
      index < globals && (guest.globalTypes[index]?.map (!·.mutable)).getD false
  | _ => false

/-- Whether instructions compute a constant, given how many globals come before. -/
def computes (guest : Module) (globals : Nat) (body : List Instr) (type : ValueType) : Bool :=
  body.all (guest.isConstant globals) && guest.leaves body [type]

/-- The greatest number of pages in a memory. -/
def greatestPages : Nat := 65536

/-- The greatest number of elements that a table may begin with. -/
def greatestElements : Nat := 10000000

/-- The greatest number of local variables in a function. -/
def greatestLocals : Nat := 50000

/-- Whether bounds are in order and within the greatest size. -/
def limitsFit (greatest : Nat) (limits : Limits) : Bool :=
  limits.least ≤ greatest &&
    limits.most.all fun most => limits.least ≤ most && most ≤ greatest

/-- Whether the bounds of a table are in order; only the lower one is limited. -/
def tableFits (limits : Limits) : Bool :=
  limits.least ≤ greatestElements && limits.most.all (limits.least ≤ ·)

/-- Whether an import refers to what there is. -/
def importFits (guest : Module) (item : Import) : Bool :=
  match item.kind with
  | .func type => type < guest.types.length
  | .memory limits => limitsFit greatestPages limits
  | .table _ limits => tableFits limits
  | .global _ => true

/-- Whether an export refers to what there is. -/
def exportFits (guest : Module) (item : Export) : Bool :=
  match item.kind with
  | .func => item.index < guest.funcTypes.length
  | .table => item.index < guest.allTables.length
  | .memory => item.index < guest.allMemories.length
  | .global => item.index < guest.globalTypes.length

/-- Whether a function has the type that is declared for it. -/
def codeFits (guest : Module) (type : Nat) (code : Code) : Bool :=
  code.locals.foldl (· + ·.1) 0 ≤ greatestLocals &&
    match guest.types[type]? with
    | none => false
    | some type => guest.leaves code.body type.results

/-- Whether a global computes a value of its type from the globals before it. -/
def globalFits (guest : Module) (place : Nat) (global : Global) : Bool :=
  let imported := guest.globalTypes.length - guest.globals.length
  guest.computes (imported + place) global.init global.type.type

/-- Whether a segment has a memory and an offset. -/
def segmentFits (guest : Module) (segment : Segment) : Bool :=
  segment.memory < guest.allMemories.length &&
    guest.computes guest.globalTypes.length segment.offset .i32

def isValid (guest : Module) : Bool :=
  guest.imports.all guest.importFits &&
    guest.funcs.all (· < guest.types.length) &&
    guest.tables.all (fun table => tableFits table.2) &&
    guest.memories.all (limitsFit greatestPages) &&
    guest.globals.zipIdx.all (fun (global, place) => guest.globalFits place global) &&
    guest.exports.all guest.exportFits &&
    decide (guest.exports.map (·.name)).Nodup &&
    (guest.start.all fun func => guest.funcType? func = some ⟨[], []⟩) &&
    guest.code.length == guest.funcs.length &&
    (guest.funcs.zip guest.code).all (fun (type, code) => guest.codeFits type code) &&
    (guest.segmentCount.all (· == guest.segments.length)) &&
    guest.segments.all guest.segmentFits

end Module

end Whittle.Guest

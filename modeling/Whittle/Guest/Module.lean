import Whittle.Guest.Signature

/-!
# Guest modules

The part of WebAssembly that guests are written in: integer constants and
arithmetic, calls, globals, one memory to read from, and tables that hold
nothing.  A module is described here as its binary form describes it, before
anything is known about it.
-/

namespace Whittle.Guest

/-- The bounds of a memory or a table. -/
structure Limits where
  least : Nat
  most : Option Nat
deriving Repr, DecidableEq

/-- The type of a global. -/
structure GlobalType where
  type : ValueType
  mutable : Bool
deriving Repr, DecidableEq

/-- What an import is. -/
inductive ImportKind where
  | func (type : Nat)
  | table (elements : ValueType) (limits : Limits)
  | memory (limits : Limits)
  | global (type : GlobalType)
deriving Repr, DecidableEq

/-- An import: where it comes from and what it is. -/
structure Import where
  space : String
  name : String
  kind : ImportKind
deriving Repr, DecidableEq

/-- What an export is. -/
inductive ExportKind where
  | func | table | memory | global
deriving Repr, DecidableEq

/-- An export: its name, and the index of what it names. -/
structure Export where
  name : String
  kind : ExportKind
  index : Nat
deriving Repr, DecidableEq

/-- Instructions. -/
inductive Instr where
  | unreachable
  | call (func : Nat)
  | callIndirect (type table : Nat)
  | drop
  | globalGet (index : Nat)
  | globalSet (index : Nat)
  | i32Load (align offset : Nat)
  | i32Const (value : Int32)
  | i64Const (value : Int64)
  /-- A floating-point constant, as its bit pattern. -/
  | f32Const (bits : UInt32)
  | i32Add
  | i32DivS
deriving Repr, DecidableEq

/-- A global with the instructions that compute its first value. -/
structure Global where
  type : GlobalType
  init : List Instr
deriving Repr, DecidableEq

/-- The code of a function. -/
structure Code where
  locals : List (Nat × ValueType)
  body : List Instr
deriving Repr, DecidableEq

/-- Bytes that are copied into memory before anything runs. -/
structure Segment where
  memory : Nat
  offset : List Instr
  bytes : List UInt8
deriving Repr, DecidableEq

/-- A module. -/
structure Module where
  types : List FuncType
  imports : List Import
  /-- The type index of each function that is not imported. -/
  funcs : List Nat
  tables : List (ValueType × Limits)
  memories : List Limits
  globals : List Global
  exports : List Export
  start : Option Nat
  code : List Code
  segmentCount : Option Nat
  segments : List Segment
deriving Repr, DecidableEq

namespace Module

def empty : Module := ⟨[], [], [], [], [], [], [], none, [], none, []⟩

/-- The type indices of the imported functions. -/
def importedFuncs (guest : Module) : List Nat :=
  guest.imports.filterMap fun item =>
    match item.kind with
    | .func type => some type
    | _ => none

/-- The type indices of all functions, imported ones first. -/
def funcTypes (guest : Module) : List Nat :=
  guest.importedFuncs ++ guest.funcs

def funcType? (guest : Module) (func : Nat) : Option FuncType :=
  guest.funcTypes[func]?.bind (guest.types[·]?)

/-- The types of all globals, imported ones first. -/
def globalTypes (guest : Module) : List GlobalType :=
  guest.imports.filterMap (fun item =>
    match item.kind with
    | .global type => some type
    | _ => none) ++ guest.globals.map (·.type)

/-- The bounds of all memories, imported ones first. -/
def allMemories (guest : Module) : List Limits :=
  guest.imports.filterMap (fun item =>
    match item.kind with
    | .memory limits => some limits
    | _ => none) ++ guest.memories

/-- The element types and bounds of all tables, imported ones first. -/
def allTables (guest : Module) : List (ValueType × Limits) :=
  guest.imports.filterMap (fun item =>
    match item.kind with
    | .table elements limits => some (elements, limits)
    | _ => none) ++ guest.tables

def export? (guest : Module) (name : String) : Option Export :=
  guest.exports.find? (·.name = name)

/-! ## Signatures -/

/-- The signature of an import. -/
def importType (guest : Module) (item : Import) : ImportType :=
  ⟨item.space, item.name,
    match item.kind with
    | .func type => .func (guest.types[type]?.getD ⟨[], []⟩)
    | .table _ _ => .table
    | .memory _ => .memory
    | .global _ => .global⟩

/-- The type of an export. -/
def exportType (guest : Module) (item : Export) : ExternType :=
  match item.kind with
  | .func => .func ((guest.funcType? item.index).getD ⟨[], []⟩)
  | .table => .table
  | .memory => .memory
  | .global => .global

end Module

end Whittle.Guest

/-!
# Signatures

What guests ask for and what they show, by name and type.
-/

namespace Whittle.Guest

/-- Types of values. -/
inductive ValueType where
  | i32 | i64 | f32 | f64 | v128 | funcRef | externRef
deriving Repr, DecidableEq

/-- The type of a function. -/
structure FuncType where
  params : List ValueType
  results : List ValueType
deriving Repr, DecidableEq

namespace ValueType

def name : ValueType → String
  | .i32 => "i32"
  | .i64 => "i64"
  | .f32 => "f32"
  | .f64 => "f64"
  | .v128 => "v128"
  | .funcRef => "funcref"
  | .externRef => "externref"

end ValueType

def FuncType.text (type : FuncType) : String :=
  "(" ++ ", ".intercalate (type.params.map ValueType.name) ++ ") -> (" ++
    ", ".intercalate (type.results.map ValueType.name) ++ ")"

/-- The type of functions that are called from outside: nothing for one integer. -/
def entryType : FuncType := ⟨[], [.i32]⟩

/-- The type of what crosses the border of a guest.  Only functions do so with a purpose. -/
inductive ExternType where
  | func (type : FuncType)
  | table
  | memory
  | global
deriving Repr, DecidableEq

def ExternType.text : ExternType → String
  | .func type => type.text
  | .table => "table"
  | .memory => "memory"
  | .global => "global"

/-- What a guest asks for: where it comes from, and its type. -/
structure ImportType where
  space : String
  name : String
  type : ExternType
deriving Repr, DecidableEq

end Whittle.Guest

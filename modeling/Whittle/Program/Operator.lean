/-!
# Operators

The operators of the candidate programs, each with the token that the printed
program shows and the name that the interchange form uses.
-/

namespace Whittle

/-- Operators that stand between two operands. -/
inductive BinaryOp where
  | add | sub | mul | div | rem | shl | shr | bitAnd | bitOr | bitXor | and | or
  | eq | ne | lt | le | gt | ge
deriving Repr, DecidableEq

namespace BinaryOp

/-- Every operator, in the order of the interchange form. -/
def all : List BinaryOp :=
  [.add, .sub, .mul, .div, .rem, .shl, .shr, .bitAnd, .bitOr, .bitXor, .and, .or,
    .eq, .ne, .lt, .le, .gt, .ge]

def token : BinaryOp → String
  | .add => "+"
  | .sub => "-"
  | .mul => "*"
  | .div => "/"
  | .rem => "%"
  | .shl => "<<"
  | .shr => ">>"
  | .bitAnd => "&"
  | .bitOr => "|"
  | .bitXor => "^"
  | .and => "&&"
  | .or => "||"
  | .eq => "=="
  | .ne => "!="
  | .lt => "<"
  | .le => "<="
  | .gt => ">"
  | .ge => ">="

def name : BinaryOp → String
  | .add => "Add"
  | .sub => "Sub"
  | .mul => "Mul"
  | .div => "Div"
  | .rem => "Rem"
  | .shl => "Shl"
  | .shr => "Shr"
  | .bitAnd => "BitAnd"
  | .bitOr => "BitOr"
  | .bitXor => "BitXor"
  | .and => "And"
  | .or => "Or"
  | .eq => "Eq"
  | .ne => "Ne"
  | .lt => "Lt"
  | .le => "Le"
  | .gt => "Gt"
  | .ge => "Ge"

theorem mem_all (op : BinaryOp) : op ∈ all := by
  cases op <;> decide

end BinaryOp

/-- Operators that store into their target. -/
inductive AssignOp where
  | assign | add | sub | mul | div | rem | and | or | xor | shl | shr
deriving Repr, DecidableEq

namespace AssignOp

/-- Every operator, in the order of the interchange form. -/
def all : List AssignOp :=
  [.assign, .add, .sub, .mul, .div, .rem, .and, .or, .xor, .shl, .shr]

def token : AssignOp → String
  | .assign => "="
  | .add => "+="
  | .sub => "-="
  | .mul => "*="
  | .div => "/="
  | .rem => "%="
  | .and => "&="
  | .or => "|="
  | .xor => "^="
  | .shl => "<<="
  | .shr => ">>="

def name : AssignOp → String
  | .assign => "Assign"
  | .add => "AddAssign"
  | .sub => "SubAssign"
  | .mul => "MulAssign"
  | .div => "DivAssign"
  | .rem => "RemAssign"
  | .and => "AndAssign"
  | .or => "OrAssign"
  | .xor => "XorAssign"
  | .shl => "ShlAssign"
  | .shr => "ShrAssign"

theorem mem_all (op : AssignOp) : op ∈ all := by
  cases op <;> decide

end AssignOp

/-- Operators with one operand. -/
inductive UnaryOp where
  | neg | not | bitNot | preInc | preDec | postInc | postDec
deriving Repr, DecidableEq

namespace UnaryOp

/-- Every operator, in the order of the interchange form. -/
def all : List UnaryOp :=
  [.neg, .not, .bitNot, .preInc, .preDec, .postInc, .postDec]

def token : UnaryOp → String
  | .neg => "-"
  | .not => "!"
  | .bitNot => "~"
  | .preInc | .postInc => "++"
  | .preDec | .postDec => "--"

/-- Whether the operator follows its operand. -/
def isPostfix : UnaryOp → Bool
  | .postInc | .postDec => true
  | _ => false

def name : UnaryOp → String
  | .neg => "Neg"
  | .not => "Not"
  | .bitNot => "BitNot"
  | .preInc => "PreInc"
  | .preDec => "PreDec"
  | .postInc => "PostInc"
  | .postDec => "PostDec"

theorem mem_all (op : UnaryOp) : op ∈ all := by
  cases op <;> decide

end UnaryOp

end Whittle

import Whittle.Decimal.Binary64
import Whittle.Program.Operator

/-!
# Candidate programs

The closed set of trees that candidate programs are made of: members that hold
statements that hold expressions.  Members and statements carry the comments
written before them; expressions carry none.
-/

namespace Whittle

/-- A comment before a member or a statement. -/
inductive Comment where
  /-- A comment that runs to the end of its line. -/
  | line (text : String)
  /-- A comment between brackets of its own. -/
  | block (text : String)
deriving Repr, DecidableEq

/-- Constants. -/
inductive Literal where
  | int (value : Int64)
  | long (value : Int64)
  | double (value : Decimal.Binary64)
  | bool (value : Bool)
  | char (value : Char)
  | string (value : String)
  | null
deriving Repr, DecidableEq

/-- Expressions. -/
inductive Expr where
  | literal (value : Literal)
  | ident (name : String)
  | unary (op : UnaryOp) (operand : Expr)
  | binary (op : BinaryOp) (lhs rhs : Expr)
  | assign (op : AssignOp) (target value : Expr)
  | cast (ty : String) (operand : Expr)
  | paren (inner : Expr)
  | invoke (callee : Expr) (args : List Expr)
  | member (target : Expr) (name : String)
  | conditional (cond thenValue elseValue : Expr)
deriving Repr, Inhabited

/-- The declaration of a local variable, with or without an initial value. -/
structure LocalDecl where
  ty : String
  name : String
  init : Option Expr
deriving Repr

/-- What a counting loop does first. -/
inductive ForInit where
  /-- Declare a variable. -/
  | declare (decl : LocalDecl)
  /-- Evaluate expressions. -/
  | run (exprs : List Expr)
deriving Repr

mutual

/-- A statement with the comments before it. -/
structure Stmt where
  trivia : List Comment
  form : StmtForm

/-- Statements without their comments.  A block is the list of its statements. -/
inductive StmtForm where
  | block (body : List Stmt)
  | declare (decl : LocalDecl)
  | expr (value : Expr)
  | ifElse (cond : Expr) (thenBranch : Stmt) (elseBranch : Option Stmt)
  | forLoop (init : Option ForInit) (cond : Option Expr) (update : List Expr) (body : Stmt)
  | whileLoop (cond : Expr) (body : Stmt)
  | doWhile (body : Stmt) (cond : Expr)
  | ret (value : Option Expr)
  | brk
  | cont
  | empty

end

deriving instance Repr for Stmt, StmtForm

/-- A parameter of a method. -/
structure Param where
  ty : String
  name : String
deriving Repr, DecidableEq

/-- A field of a class. -/
structure FieldDecl where
  modifiers : List String
  ty : String
  name : String
  init : Option Expr
deriving Repr

/-- A method with its body. -/
structure MethodDecl where
  modifiers : List String
  ret : String
  name : String
  params : List Param
  body : List Stmt
deriving Repr

mutual

/-- A declaration with the comments before it. -/
structure Member where
  trivia : List Comment
  form : MemberForm

/-- Declarations without their comments. -/
inductive MemberForm where
  | classDecl (modifiers : List String) (name : String) (members : List Member)
  | field (decl : FieldDecl)
  | method (decl : MethodDecl)

end

deriving instance Repr for Member, MemberForm

/-- A whole program. -/
structure Program where
  members : List Member
deriving Repr

/-- The empty statement, without comments. -/
def Stmt.nothing : Stmt := ⟨[], .empty⟩

end Whittle

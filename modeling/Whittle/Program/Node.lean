import Whittle.Program.Kind
import Whittle.Program.Render

/-!
# Nodes

A node is a member, a statement or an expression.  Its label is what it holds
itself: its kind and the names, types, modifiers, parameters, operator or
constant written in it, without comments and without the nodes below it.
-/

namespace Whittle

/-- The part of a node that is its own. -/
inductive Label where
  | classDecl (modifiers : List String) (name : String)
  | field (modifiers : List String) (ty name : String)
  | method (modifiers : List String) (ret name : String) (params : List Param)
  | block
  | declare (ty name : String)
  | exprStmt
  | ifElse
  /-- A counting loop, with the variable it declares. -/
  | forLoop (declared : Option (String × String))
  | whileLoop
  | doWhile
  | ret
  | brk
  | cont
  | empty
  | literal (value : Literal)
  | ident (name : String)
  | unary (op : UnaryOp)
  | binary (op : BinaryOp)
  | assign (op : AssignOp)
  | cast (ty : String)
  | paren
  | invoke
  | member (name : String)
  | conditional
deriving Repr, DecidableEq

/-- The kind of a node with the given label. -/
def Label.kind : Label → NodeKind
  | .classDecl .. => .classDecl
  | .field .. => .field
  | .method .. => .method
  | .block => .block
  | .declare .. => .declare
  | .exprStmt => .exprStmt
  | .ifElse => .ifElse
  | .forLoop _ => .forLoop
  | .whileLoop => .whileLoop
  | .doWhile => .doWhile
  | .ret => .ret
  | .brk => .brk
  | .cont => .cont
  | .empty => .empty
  | .literal _ => .literal
  | .ident _ => .ident
  | .unary _ => .unary
  | .binary _ => .binary
  | .assign _ => .assign
  | .cast _ => .cast
  | .paren => .paren
  | .invoke => .invoke
  | .member _ => .member
  | .conditional => .conditional

def Expr.label : Expr → Label
  | .literal value => .literal value
  | .ident name => .ident name
  | .unary op _ => .unary op
  | .binary op _ _ => .binary op
  | .assign op _ _ => .assign op
  | .cast ty _ => .cast ty
  | .paren _ => .paren
  | .invoke _ _ => .invoke
  | .member _ name => .member name
  | .conditional _ _ _ => .conditional

/-- The variable that the start of a counting loop declares. -/
def ForInit.declared? : Option ForInit → Option (String × String)
  | some (.declare decl) => some (decl.ty, decl.name)
  | _ => none

def StmtForm.label : StmtForm → Label
  | .block _ => .block
  | .declare decl => .declare decl.ty decl.name
  | .expr _ => .exprStmt
  | .ifElse _ _ _ => .ifElse
  | .forLoop init _ _ _ => .forLoop (ForInit.declared? init)
  | .whileLoop _ _ => .whileLoop
  | .doWhile _ _ => .doWhile
  | .ret _ => .ret
  | .brk => .brk
  | .cont => .cont
  | .empty => .empty

def MemberForm.label : MemberForm → Label
  | .classDecl modifiers name _ => .classDecl modifiers name
  | .field decl => .field decl.modifiers decl.ty decl.name
  | .method decl => .method decl.modifiers decl.ret decl.name decl.params

/-- A part of a program that has a kind of its own. -/
inductive Node where
  | member (value : Member)
  | stmt (value : Stmt)
  | expr (value : Expr)
deriving Repr

namespace Node

def label : Node → Label
  | .member value => value.form.label
  | .stmt value => value.form.label
  | .expr value => value.label

def kind (node : Node) : NodeKind :=
  node.label.kind

def trivia : Node → List Comment
  | .member value => value.trivia
  | .stmt value => value.trivia
  | .expr _ => []

/-- The characters of a node that stands alone, without any comments. -/
def chars : Node → List Char
  | .member value => value.chars (.outermost false)
  | .stmt value => value.chars (.outermost false)
  | .expr value => value.chars

/-- The text of a node without any comments.  All tests on text look at this one. -/
def text (node : Node) : String :=
  String.ofList node.chars

end Node

end Whittle

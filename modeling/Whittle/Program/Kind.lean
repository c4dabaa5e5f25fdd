/-!
# Kinds of nodes

The categories that nodes are counted and selected by, in the order in which
they are compared: declarations, statements, expressions.
-/

namespace Whittle

/-- The category of a node. -/
inductive NodeKind where
  | unit | classDecl | field | method
  | block | declare | exprStmt | ifElse | forLoop | whileLoop | doWhile | ret | brk | cont | empty
  | literal | ident | unary | binary | assign | cast | paren | invoke | member | conditional
deriving Repr, DecidableEq

namespace NodeKind

def all : List NodeKind :=
  [.unit, .classDecl, .field, .method,
    .block, .declare, .exprStmt, .ifElse, .forLoop, .whileLoop, .doWhile, .ret, .brk, .cont,
    .empty,
    .literal, .ident, .unary, .binary, .assign, .cast, .paren, .invoke, .member, .conditional]

def name : NodeKind → String
  | .unit => "Unit"
  | .classDecl => "Class"
  | .field => "FieldDeclaration"
  | .method => "MethodDeclaration"
  | .block => "Block"
  | .declare => "LocalDeclaration"
  | .exprStmt => "ExpressionStatement"
  | .ifElse => "If"
  | .forLoop => "For"
  | .whileLoop => "While"
  | .doWhile => "DoWhile"
  | .ret => "Return"
  | .brk => "Break"
  | .cont => "Continue"
  | .empty => "Empty"
  | .literal => "LiteralExpression"
  | .ident => "Identifier"
  | .unary => "UnaryExpression"
  | .binary => "BinaryExpression"
  | .assign => "AssignmentExpression"
  | .cast => "CastExpression"
  | .paren => "ParenthesizedExpression"
  | .invoke => "InvocationExpression"
  | .member => "MemberAccessExpression"
  | .conditional => "ConditionalExpression"

theorem mem_all (kind : NodeKind) : kind ∈ all := by
  cases kind <;> decide

/-- How many kinds come before this one. -/
def position (kind : NodeKind) : Nat :=
  all.idxOf kind

/-- Whether nodes of this kind are statements. -/
def isStatement (kind : NodeKind) : Bool :=
  NodeKind.block.position ≤ kind.position && kind.position ≤ NodeKind.empty.position

/-- Whether nodes of this kind are expressions. -/
def isExpression (kind : NodeKind) : Bool :=
  NodeKind.literal.position ≤ kind.position

end NodeKind

end Whittle

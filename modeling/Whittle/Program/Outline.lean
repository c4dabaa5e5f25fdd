import Whittle.Program.Walk

/-!
# Outlines

The outline of a program is the tree of its nodes in the order of the source: a
loop that tests after its body has the body first, a counting loop has its
start, condition, updates and body.  Outlines say once more what a walk through
a program is, without the forms that statements and expressions have.
-/

namespace Whittle

/-- A node and the outlines of the nodes directly below it. -/
inductive Outline where
  | node (head : Node) (children : List Outline)

namespace Outline

mutual

/-- The nodes of an outline, each before those below it. -/
def nodes : Outline → List Node
  | .node head children => head :: nodesOfList children

/-- The nodes of a list of outlines, one outline after the other. -/
def nodesOfList : List Outline → List Node
  | [] => []
  | outline :: rest => nodes outline ++ nodesOfList rest

end

end Outline

/-! ## The outline of a program -/

mutual

/-- The outline of an expression: operands from left to right. -/
def Expr.outline : Expr → Outline
  | .literal value => .node (.expr (.literal value)) []
  | .ident name => .node (.expr (.ident name)) []
  | .unary op operand => .node (.expr (.unary op operand)) [operand.outline]
  | .binary op lhs rhs => .node (.expr (.binary op lhs rhs)) [lhs.outline, rhs.outline]
  | .assign op target value =>
      .node (.expr (.assign op target value)) [target.outline, value.outline]
  | .cast ty operand => .node (.expr (.cast ty operand)) [operand.outline]
  | .paren inner => .node (.expr (.paren inner)) [inner.outline]
  | .invoke callee args =>
      .node (.expr (.invoke callee args)) (callee.outline :: Expr.outlines args)
  | .member target name => .node (.expr (.member target name)) [target.outline]
  | .conditional cond thenValue elseValue =>
      .node (.expr (.conditional cond thenValue elseValue))
        [cond.outline, thenValue.outline, elseValue.outline]

def Expr.outlines : List Expr → List Outline
  | [] => []
  | expr :: rest => expr.outline :: Expr.outlines rest

end

/-- The outline of an expression that may be missing. -/
def Expr.optionOutline : Option Expr → List Outline
  | none => []
  | some expr => [expr.outline]

/-- The outlines at the start of a counting loop. -/
def ForInit.outlines : Option ForInit → List Outline
  | none => []
  | some (.declare decl) => Expr.optionOutline decl.init
  | some (.run exprs) => Expr.outlines exprs

mutual

def Stmt.outline : Stmt → Outline
  | ⟨trivia, form⟩ => .node (.stmt ⟨trivia, form⟩) form.children

/-- The outlines of what a statement is made of. -/
def StmtForm.children : StmtForm → List Outline
  | .block body => Stmt.outlines body
  | .declare decl => Expr.optionOutline decl.init
  | .expr value => [value.outline]
  | .ifElse cond thenBranch none => [cond.outline, thenBranch.outline]
  | .ifElse cond thenBranch (some elseBranch) =>
      [cond.outline, thenBranch.outline, elseBranch.outline]
  | .forLoop init cond update body =>
      ForInit.outlines init ++ Expr.optionOutline cond ++ Expr.outlines update ++ [body.outline]
  | .whileLoop cond body => [cond.outline, body.outline]
  | .doWhile body cond => [body.outline, cond.outline]
  | .ret value => Expr.optionOutline value
  | .brk => []
  | .cont => []
  | .empty => []

def Stmt.outlines : List Stmt → List Outline
  | [] => []
  | stmt :: rest => stmt.outline :: Stmt.outlines rest

end

mutual

def Member.outline : Member → Outline
  | ⟨trivia, form⟩ => .node (.member ⟨trivia, form⟩) form.children

/-- The outlines of what a declaration is made of. -/
def MemberForm.children : MemberForm → List Outline
  | .classDecl _ _ members => Member.outlines members
  | .field decl => Expr.optionOutline decl.init
  | .method decl => Stmt.outlines decl.body

def Member.outlines : List Member → List Outline
  | [] => []
  | member :: rest => member.outline :: Member.outlines rest

end

/-- The outline of a node. -/
def Node.outline : Node → Outline
  | .member value => value.outline
  | .stmt value => value.outline
  | .expr value => value.outline

namespace Program

def outlines (program : Program) : List Outline :=
  Member.outlines program.members

/-- Every node of a program, each before those below it. -/
def nodes (program : Program) : List Node :=
  Outline.nodesOfList program.outlines

end Program

/-! ## Walks through outlines -/

namespace Outline

variable {σ β : Type}

mutual

/-- Visit an outline in order; the result is what the visitor stopped with, if it did. -/
def walk (visit : Visitor σ β) : Outline → σ → Option β × σ
  | .node head children, state =>
      match visit head state with
      | (.stop result, next) => (some result, next)
      | (.skip, next) => (none, next)
      | (.advance, next) => walkList visit children next

def walkList (visit : Visitor σ β) : List Outline → σ → Option β × σ
  | [], state => (none, state)
  | outline :: rest, state =>
      match walk visit outline state with
      | (some result, next) => (some result, next)
      | (none, next) => walkList visit rest next

end

end Outline

end Whittle

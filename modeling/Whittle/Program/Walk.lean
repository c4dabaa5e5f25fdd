import Whittle.Program.Node

/-!
# Walks

A visitor is called at every member, statement and expression of a program, each
before what is below it.  At each it may say that the walk goes on without what
is below, or end the walk as a whole; then nothing else is visited, however deep
the walk has got.
-/

namespace Whittle

/-- What a visitor answers at a node. -/
inductive Verdict (β : Type) where
  /-- Go on with the nodes below. -/
  | advance
  /-- Go on without the nodes below. -/
  | skip
  /-- End the whole walk. -/
  | stop (result : β)
deriving Repr, DecidableEq

/-- A visitor keeps a state from node to node. -/
abbrev Visitor (σ β : Type) := Node → σ → Verdict β × σ

/-- A part of a walk, which passes the state of the visitor on and may end the whole walk. -/
def Walk (σ β α : Type) := σ → Except β α × σ

section

variable {σ β : Type}

namespace Walk

/-- What comes after a part that has ended the walk is left out. -/
instance : Monad (Walk σ β) where
  pure value := fun state => (.ok value, state)
  bind first second := fun state =>
    match first state with
    | (.ok value, next) => second value next
    | (.error result, next) => (.error result, next)

theorem bind_apply {α γ : Type} (first : Walk σ β α) (second : α → Walk σ β γ) (state : σ) :
    (first >>= second) state =
      match first state with
      | (.ok value, next) => second value next
      | (.error result, next) => (.error result, next) :=
  rfl

/-- Visit a node and tell whether to go on with what is below it. -/
def enter (visit : Visitor σ β) (node : Node) : Walk σ β Bool := fun state =>
  match visit node state with
  | (.advance, next) => (.ok true, next)
  | (.skip, next) => (.ok false, next)
  | (.stop result, next) => (.error result, next)

end Walk

/-! ## Expressions -/

mutual

def Expr.walk (visit : Visitor σ β) (expr : Expr) : Walk σ β Unit := do
  unless ← Walk.enter visit (.expr expr) do return
  match expr with
  | .literal _ => return
  | .ident _ => return
  | .unary _ operand => operand.walk visit
  | .binary _ lhs rhs =>
      lhs.walk visit
      rhs.walk visit
  | .assign _ target value =>
      target.walk visit
      value.walk visit
  | .cast _ operand => operand.walk visit
  | .paren inner => inner.walk visit
  | .invoke callee args =>
      callee.walk visit
      Expr.walkAll visit args
  | .member target _ => target.walk visit
  | .conditional cond thenValue elseValue =>
      cond.walk visit
      thenValue.walk visit
      elseValue.walk visit

def Expr.walkAll (visit : Visitor σ β) : List Expr → Walk σ β Unit
  | [] => return
  | expr :: rest => do
      expr.walk visit
      Expr.walkAll visit rest

end

/-- Walk through an expression that may be missing. -/
def Expr.walkOption (visit : Visitor σ β) : Option Expr → Walk σ β Unit
  | none => return
  | some expr => expr.walk visit

/-! ## Statements -/

def ForInit.walkOption (visit : Visitor σ β) : Option ForInit → Walk σ β Unit
  | some (.declare decl) => Expr.walkOption visit decl.init
  | some (.run exprs) => Expr.walkAll visit exprs
  | none => return

mutual

def Stmt.walk (visit : Visitor σ β) : Stmt → Walk σ β Unit
  | ⟨trivia, form⟩ => do
      unless ← Walk.enter visit (.stmt ⟨trivia, form⟩) do return
      form.walk visit

/-- Walk through what a statement is made of. -/
def StmtForm.walk (visit : Visitor σ β) : StmtForm → Walk σ β Unit
  | .block body => Stmt.walkAll visit body
  | .declare decl => Expr.walkOption visit decl.init
  | .expr value => value.walk visit
  | .ifElse cond thenBranch elseBranch => do
      cond.walk visit
      thenBranch.walk visit
      match elseBranch with
      | some elseBranch => elseBranch.walk visit
      | none => return
  | .forLoop init cond update body => do
      ForInit.walkOption visit init
      Expr.walkOption visit cond
      Expr.walkAll visit update
      body.walk visit
  | .whileLoop cond body => do
      cond.walk visit
      body.walk visit
  | .doWhile body cond => do
      body.walk visit
      cond.walk visit
  | .ret value => Expr.walkOption visit value
  | .brk => return
  | .cont => return
  | .empty => return

def Stmt.walkAll (visit : Visitor σ β) : List Stmt → Walk σ β Unit
  | [] => return
  | stmt :: rest => do
      stmt.walk visit
      Stmt.walkAll visit rest

end

/-! ## Members -/

mutual

def Member.walk (visit : Visitor σ β) : Member → Walk σ β Unit
  | ⟨trivia, form⟩ => do
      unless ← Walk.enter visit (.member ⟨trivia, form⟩) do return
      form.walk visit

/-- Walk through what a declaration is made of. -/
def MemberForm.walk (visit : Visitor σ β) : MemberForm → Walk σ β Unit
  | .classDecl _ _ members => Member.walkAll visit members
  | .field decl => Expr.walkOption visit decl.init
  | .method decl => Stmt.walkAll visit decl.body

def Member.walkAll (visit : Visitor σ β) : List Member → Walk σ β Unit
  | [] => return
  | member :: rest => do
      member.walk visit
      Member.walkAll visit rest

end

/-! ## Programs -/

namespace Program

/-- Visit every node of a program; the result is what the visitor stopped with, if it did. -/
def walk (visit : Visitor σ β) (program : Program) (state : σ) : Option β × σ :=
  match Member.walkAll visit program.members state with
  | (.ok _, next) => (none, next)
  | (.error result, next) => (some result, next)

/-- The number of nodes of one kind. -/
def count (program : Program) (kind : NodeKind) : Nat :=
  (program.walk (β := Empty)
    (fun node seen => (.advance, if node.kind = kind then seen + 1 else seen)) 0).2

/-- Whether a comment stands before any member or statement. -/
def containsComments (program : Program) : Bool :=
  (program.walk (σ := Unit)
    (fun node state => (if node.trivia.isEmpty then .advance else .stop (), state)) ()).1.isSome

end Program

end

end Whittle

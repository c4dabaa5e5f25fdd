import Whittle.Reduction.Kind
import Whittle.Reduction.Options
import Whittle.Reduction.Survey

/-!
# Passes

A pass surveys a program for the candidates of one removal kind and rebuilds
the program without those selected.  A node is a candidate if the kind matches
it and does not protect it.  A selected candidate is deleted, simplified or
unwrapped, and what was inside is not surveyed unless it is kept.

A part that is deleted leaves a gap.  Lists close it, optional parts become
missing, bodies become the empty statement, and a node that cannot do without
the part is deleted with it.  Only where the kind guards markers does a node
that mentions one keep the part as it was.  All parts of a node are surveyed
before a gap is resolved, so counts never depend on gaps.

Comments are dropped everywhere.
-/

namespace Whittle

/-- A removal kind with the options it looks at. -/
structure Pass where
  kind : RemovalKind
  options : ReduceOptions
deriving Repr, DecidableEq

/-- The left operand of every simplified binary expression. -/
def canonicalLeft : Int64 := 15

/-- The right operand of every simplified binary expression. -/
def canonicalRight : Int64 := 4

/-- What binary expressions are simplified to. -/
def BinaryOp.canonical (op : BinaryOp) : Expr :=
  .binary op (.literal (.int canonicalLeft)) (.literal (.int canonicalRight))

namespace StmtForm

def isBlock : StmtForm → Bool
  | .block _ => true
  | _ => false

/-- Whether the statement is a block without statements. -/
def isEmptyBlock : StmtForm → Bool
  | .block body => body.isEmpty
  | _ => false

end StmtForm

namespace Pass

/-- Whether the kind is about the given expression. -/
def matchesExpr (pass : Pass) (expr : Expr) : Bool :=
  match pass.kind, expr with
  | .assignment, .assign .. => true
  | .binary, .binary op .. => expr.chars != op.canonical.chars
  | .cast, .cast .. => true
  | .invocation, .invoke .. => true
  | .literal, .literal _ => true
  | .memberAccess, .member .. => true
  | .parenthesized, .paren _ => true
  | _, _ => false

/-- Whether the kind is about the given statement. -/
def matchesStmt (pass : Pass) (stmt : Stmt) : Bool :=
  match pass.kind, stmt.form with
  | .block, form => form.isBlock && !form.isEmptyBlock
  | .doWhile, .doWhile .. => true
  | .forLoop, .forLoop .. => true
  | .ifElse, .ifElse .. => true
  | .expressionStatement, .expr _ => true
  | .diagnosticLog, _ => pass.options.beginsDiagnostic (.stmt stmt)
  | _, _ => false

/-- Whether the kind is about the given declaration. -/
def matchesMember (pass : Pass) (member : Member) : Bool :=
  match pass.kind, member.form with
  | .fieldDeclaration, .field _ => true
  | _, _ => false

/-- Whether the kind is about the given node. -/
def matchesNode (pass : Pass) : Node → Bool
  | .member member => pass.matchesMember member
  | .stmt stmt => pass.matchesStmt stmt
  | .expr expr => pass.matchesExpr expr

/-- Whether the node mentions a marker that the kind guards. -/
def shields (pass : Pass) (node : Node) : Bool :=
  pass.kind.guardsMarkers && pass.options.mentionsMarker node

/-- Whether the node can be selected. -/
def isCandidate (pass : Pass) (node : Node) : Bool :=
  pass.matchesNode node && !pass.shields node

/-- Survey one node: whether it is a selected candidate. -/
def selects (pass : Pass) (node : Node) : Survey Bool := do
  if pass.kind.isBatchOnly && !(← Survey.isBatch) then return false
  if pass.isCandidate node then Survey.candidate else return false

/-- Survey a node and go on according to whether it is selected. -/
def visit {α : Type} (pass : Pass) (node : Node)
    (selected kept : Survey (Option α)) : Survey (Option α) := do
  if ← pass.selects node then selected else kept

/-- Whether the kind drops the statement from a list of statements without counting it. -/
def sweeps (pass : Pass) (stmt : Stmt) : Bool :=
  match pass.kind with
  | .block => stmt.form.isEmptyBlock
  | _ => false

end Pass

/-- A part that its node cannot do without: what stood there before fills the gap if the node is
shielded. -/
def keepIf (shielded : Bool) (before : Expr) (folded : Option Expr) : Option Expr :=
  if shielded then some (folded.getD before) else folded

/-! ## Expressions -/

mutual

/-- Rebuild an expression, or delete it. -/
def Expr.reduce (pass : Pass) : Expr → Survey (Option Expr)
  | .literal value =>
      pass.visit (.expr (.literal value)) (pure none) (pure (some (.literal value)))
  | .ident name =>
      pass.visit (.expr (.ident name)) (pure none) (pure (some (.ident name)))
  | .unary op operand =>
      let node := Node.expr (.unary op operand)
      pass.visit node (pure none) do
        let operand' ← operand.reduce pass
        return do return .unary op (← keepIf (pass.shields node) operand operand')
  | .binary op lhs rhs =>
      let node := Node.expr (.binary op lhs rhs)
      pass.visit node (pure (some op.canonical)) do
        let lhs' ← lhs.reduce pass
        let rhs' ← rhs.reduce pass
        return do
          return .binary op (← keepIf (pass.shields node) lhs lhs')
            (← keepIf (pass.shields node) rhs rhs')
  | .assign op target value =>
      let node := Node.expr (.assign op target value)
      pass.visit node (pure none) do
        let target' ← target.reduce pass
        let value' ← value.reduce pass
        return do
          return .assign op (← keepIf (pass.shields node) target target')
            (← keepIf (pass.shields node) value value')
  | .cast ty (.paren inner) =>
      let node := Node.expr (.cast ty (.paren inner))
      pass.visit node (inner.reduce pass) do
        let operand' ← (Expr.paren inner).reduce pass
        return do return .cast ty (← keepIf (pass.shields node) (.paren inner) operand')
  | .cast ty operand =>
      let node := Node.expr (.cast ty operand)
      pass.visit node (operand.reduce pass) do
        let operand' ← operand.reduce pass
        return do return .cast ty (← keepIf (pass.shields node) operand operand')
  | .paren inner =>
      let node := Node.expr (.paren inner)
      pass.visit node (inner.reduce pass) do
        let inner' ← inner.reduce pass
        return do return .paren (← keepIf (pass.shields node) inner inner')
  | .invoke callee args =>
      let node := Node.expr (.invoke callee args)
      pass.visit node (pure none) do
        let callee' ← callee.reduce pass
        let args' ← Expr.reduceList pass args
        return do return .invoke (← keepIf (pass.shields node) callee callee') args'
  | .member target name =>
      let node := Node.expr (.member target name)
      pass.visit node (pure none) do
        let target' ← target.reduce pass
        return do return .member (← keepIf (pass.shields node) target target') name
  | .conditional cond thenValue elseValue =>
      let node := Node.expr (.conditional cond thenValue elseValue)
      pass.visit node (pure none) do
        let cond' ← cond.reduce pass
        let then' ← thenValue.reduce pass
        let else' ← elseValue.reduce pass
        return do
          return .conditional (← keepIf (pass.shields node) cond cond')
            (← keepIf (pass.shields node) thenValue then')
            (← keepIf (pass.shields node) elseValue else')

/-- Rebuild the expressions of a list; gaps close. -/
def Expr.reduceList (pass : Pass) : List Expr → Survey (List Expr)
  | [] => pure []
  | expr :: rest => do
      let expr' ← expr.reduce pass
      let rest' ← Expr.reduceList pass rest
      return expr'.toList ++ rest'

end

/-- Rebuild an expression that may be missing; a gap makes it so. -/
def Expr.reduceOption (pass : Pass) : Option Expr → Survey (Option Expr)
  | none => pure none
  | some expr => expr.reduce pass

/-- Rebuild a local declaration; it can do without its initial value. -/
def LocalDecl.reduce (pass : Pass) (decl : LocalDecl) : Survey LocalDecl := do
  return { decl with init := ← Expr.reduceOption pass decl.init }

/-- Rebuild the start of a counting loop; an empty list of expressions becomes missing. -/
def ForInit.reduce (pass : Pass) : Option ForInit → Survey (Option ForInit)
  | none => pure none
  | some (.declare decl) => do return some (.declare (← decl.reduce pass))
  | some (.run exprs) => do
      let exprs' ← Expr.reduceList pass exprs
      return if exprs'.isEmpty then none else some (.run exprs')

/-! ## Statements -/

/-- What a selected statement becomes: a block loses its statements, all others are deleted. -/
def StmtForm.replacement : StmtForm → Option Stmt
  | .block _ => some ⟨[], .block []⟩
  | _ => none

/-- A statement without comments around a form that may be missing. -/
def Stmt.ofForm (form : Option StmtForm) : Option Stmt :=
  form.map (⟨[], ·⟩)

mutual

/-- Rebuild a statement, or delete it. -/
def Stmt.reduce (pass : Pass) : Stmt → Survey (Option Stmt)
  | ⟨_, form⟩ =>
      let node := Node.stmt ⟨[], form⟩
      pass.visit node
        (pure (if pass.kind = .block then form.replacement else none)) do
          let form' ← form.reduceParts pass (pass.shields node)
          return Stmt.ofForm form'

/-- Rebuild the parts of a statement. -/
def StmtForm.reduceParts (pass : Pass) (shielded : Bool) : StmtForm → Survey (Option StmtForm)
  | .block body => do return some (.block (← Stmt.reduceList pass body))
  | .declare decl => do return some (.declare (← decl.reduce pass))
  | .expr value => do
      let value' ← value.reduce pass
      return do return .expr (← keepIf shielded value value')
  | .ifElse cond thenBranch none => do
      let cond' ← cond.reduce pass
      let then' ← thenBranch.reduce pass
      return do
        return .ifElse (← keepIf shielded cond cond') (then'.getD .nothing) none
  | .ifElse cond thenBranch (some elseBranch) => do
      let cond' ← cond.reduce pass
      let then' ← thenBranch.reduce pass
      let else' ← elseBranch.reduce pass
      return do
        return .ifElse (← keepIf shielded cond cond') (then'.getD .nothing) else'
  | .forLoop init cond update body => do
      let init' ← ForInit.reduce pass init
      let cond' ← Expr.reduceOption pass cond
      let update' ← Expr.reduceList pass update
      let body' ← body.reduce pass
      return some (.forLoop init' cond' update' (body'.getD .nothing))
  | .whileLoop cond body => do
      let cond' ← cond.reduce pass
      let body' ← body.reduce pass
      return do return .whileLoop (← keepIf shielded cond cond') (body'.getD .nothing)
  | .doWhile body cond => do
      let body' ← body.reduce pass
      let cond' ← cond.reduce pass
      return do return .doWhile (body'.getD .nothing) (← keepIf shielded cond cond')
  | .ret value => do return some (.ret (← Expr.reduceOption pass value))
  | .brk => pure (some .brk)
  | .cont => pure (some .cont)
  | .empty => pure (some .empty)

/-- Rebuild the statements of a list; swept ones and gaps close. -/
def Stmt.reduceList (pass : Pass) : List Stmt → Survey (List Stmt)
  | [] => pure []
  | stmt :: rest => do
      if pass.sweeps stmt then
        Survey.change
        Stmt.reduceList pass rest
      else
        let stmt' ← stmt.reduce pass
        let rest' ← Stmt.reduceList pass rest
        return stmt'.toList ++ rest'

end

/-! ## Declarations -/

mutual

/-- Rebuild a declaration, or delete it. -/
def Member.reduce (pass : Pass) : Member → Survey (Option Member)
  | ⟨_, form⟩ =>
      pass.visit (.member ⟨[], form⟩) (pure none) do
        let form' ← form.reduceParts pass
        return some ⟨[], form'⟩

/-- Rebuild the parts of a declaration. -/
def MemberForm.reduceParts (pass : Pass) : MemberForm → Survey MemberForm
  | .classDecl modifiers name members => do
      return .classDecl modifiers name (← Member.reduceList pass members)
  | .field decl => do
      return .field { decl with init := ← Expr.reduceOption pass decl.init }
  | .method decl => do
      return .method { decl with body := ← Stmt.reduceList pass decl.body }

/-- Rebuild the declarations of a list; gaps close. -/
def Member.reduceList (pass : Pass) : List Member → Survey (List Member)
  | [] => pure []
  | member :: rest => do
      let member' ← member.reduce pass
      let rest' ← Member.reduceList pass rest
      return member'.toList ++ rest'

end

namespace Pass

/-- Survey a program: the rebuilt program, the number of candidates and whether it changed. -/
def apply (pass : Pass) (program : Program) (mode : Mode) : Counted Program :=
  let members := Member.reduceList pass program.members mode
  ⟨⟨members.value⟩, members.candidates, members.changed⟩

/-- The number of candidates in a program. -/
def probe (pass : Pass) (program : Program) : Nat :=
  (pass.apply program .probe).candidates

end Pass

end Whittle

import Whittle.Proofs.NormalForm
import Whittle.Proofs.Skeleton

/-!
# Reading skeletons back

A skeleton is read from the inside out: once its parts are read, the label and
the slots say which node they make.  What is read from the skeleton of a node is
the normal form of the node, so nodes with the same skeleton have the same
normal form, and every test of a pass on a node can be put to its skeleton.
-/

namespace Whittle

/-! ## Nodes from their parts -/

/-- Parts that have been read. -/
abbrev ReadParts := List (Slot × Node)

namespace ReadParts

/-- The expressions in one slot. -/
def exprs (parts : ReadParts) (slot : Slot) : List Expr :=
  parts.filterMap fun
    | (there, .expr value) => if there = slot then some value else none
    | _ => none

/-- The statements in one slot. -/
def stmts (parts : ReadParts) (slot : Slot) : List Stmt :=
  parts.filterMap fun
    | (there, .stmt value) => if there = slot then some value else none
    | _ => none

/-- The declarations in the list that the node is made of. -/
def members (parts : ReadParts) : List Member :=
  parts.filterMap fun
    | (.entry, .member value) => some value
    | _ => none

/-- The start of a counting loop with the given label. -/
def forInit (parts : ReadParts) : Option (String × String) → Option ForInit
  | some (ty, name) => some (.declare ⟨ty, name, (parts.exprs .initial).head?⟩)
  | none =>
      match parts.exprs .start with
      | [] => none
      | exprs => some (.run exprs)

/-- The expression with the given label and parts. -/
def expr? (parts : ReadParts) (label : Label) : Option Expr :=
  match label, parts with
  | .literal value, [] => some (.literal value)
  | .ident name, [] => some (.ident name)
  | .unary op, [(.operand, .expr operand)] => some (.unary op operand)
  | .binary op, [(.operand, .expr lhs), (.operand, .expr rhs)] => some (.binary op lhs rhs)
  | .assign op, [(.operand, .expr target), (.operand, .expr value)] =>
      some (.assign op target value)
  | .cast ty, [(.operand, .expr operand)] => some (.cast ty operand)
  | .paren, [(.operand, .expr inner)] => some (.paren inner)
  | .invoke, (.operand, .expr callee) :: args => some (.invoke callee (ReadParts.exprs args .entry))
  | .member name, [(.operand, .expr target)] => some (.member target name)
  | .conditional,
      [(.operand, .expr cond), (.operand, .expr thenValue), (.operand, .expr elseValue)] =>
      some (.conditional cond thenValue elseValue)
  | _, _ => none

/-- The statement with the given label and parts. -/
def form? (parts : ReadParts) (label : Label) : Option StmtForm :=
  match label, parts.exprs .operand, parts.stmts .body with
  | .block, [], [] => some (.block (parts.stmts .entry))
  | .declare ty name, [], [] => some (.declare ⟨ty, name, (parts.exprs .initial).head?⟩)
  | .exprStmt, [value], [] => some (.expr value)
  | .ifElse, [cond], [thenBranch] =>
      some (.ifElse cond thenBranch (parts.stmts .otherwise).head?)
  | .forLoop declared, [], [body] =>
      some (.forLoop (parts.forInit declared) (parts.exprs .test).head? (parts.exprs .update) body)
  | .whileLoop, [cond], [body] => some (.whileLoop cond body)
  | .doWhile, [cond], [body] => some (.doWhile body cond)
  | .ret, [], [] => some (.ret (parts.exprs .initial).head?)
  | .brk, [], [] => some .brk
  | .cont, [], [] => some .cont
  | .empty, [], [] => some .empty
  | _, _, _ => none

/-- The declaration with the given label and parts. -/
def memberForm? (parts : ReadParts) : Label → Option MemberForm
  | .classDecl modifiers name => some (.classDecl modifiers name parts.members)
  | .field modifiers ty name =>
      some (.field ⟨modifiers, ty, name, (parts.exprs .initial).head?⟩)
  | .method modifiers ret name params =>
      some (.method ⟨modifiers, ret, name, params, parts.stmts .entry⟩)
  | _ => none

/-- The node with the given label and parts. -/
def node? (parts : ReadParts) (label : Label) : Option Node :=
  (parts.expr? label).map .expr <|>
    (parts.form? label).map (.stmt ⟨[], ·⟩) <|>
      (parts.memberForm? label).map (.member ⟨[], ·⟩)

end ReadParts

namespace Skeleton

mutual

/-- Read a node without comments from its skeleton. -/
def read? : Skeleton → Option Node
  | .node label parts => do (← readParts? parts).node? (← label)

/-- Read each part. -/
def readParts? : List (Slot × Skeleton) → Option ReadParts
  | [] => some []
  | (slot, tree) :: rest => do return (slot, ← tree.read?) :: (← readParts? rest)

end

@[simp]
theorem readParts?_append (first second : List (Slot × Skeleton)) :
    readParts? (first ++ second) =
      (readParts? first).bind fun before => (readParts? second).map (before ++ ·) := by
  induction first with
  | nil => simp [readParts?]
  | cons part rest ih =>
      cases part with
      | mk slot tree =>
          simp only [List.cons_append, readParts?, ih]
          cases tree.read? <;> cases readParts? rest <;> cases readParts? second <;> simp

end Skeleton

/-! ## Reading back what was written -/

namespace ReadParts

variable (rest first second : ReadParts) (slot there : Slot)

@[simp]
theorem exprs_nil : exprs [] slot = [] :=
  rfl

@[simp]
theorem exprs_cons_expr (value : Expr) :
    exprs ((there, .expr value) :: rest) slot =
      if there = slot then value :: exprs rest slot else exprs rest slot := by
  by_cases same : there = slot <;> simp [exprs, same]

@[simp]
theorem exprs_cons_stmt (value : Stmt) :
    exprs ((there, .stmt value) :: rest) slot = exprs rest slot :=
  rfl

@[simp]
theorem stmts_nil : stmts [] slot = [] :=
  rfl

@[simp]
theorem stmts_cons_expr (value : Expr) :
    stmts ((there, .expr value) :: rest) slot = stmts rest slot :=
  rfl

@[simp]
theorem stmts_cons_stmt (value : Stmt) :
    stmts ((there, .stmt value) :: rest) slot =
      if there = slot then value :: stmts rest slot else stmts rest slot := by
  by_cases same : there = slot <;> simp [stmts, same]

@[simp]
theorem exprs_append : exprs (first ++ second) slot = exprs first slot ++ exprs second slot :=
  List.filterMap_append

@[simp]
theorem stmts_append : stmts (first ++ second) slot = stmts first slot ++ stmts second slot :=
  List.filterMap_append

/-- Expressions that stand in one slot. -/
def ofExprs (exprs : List Expr) : ReadParts :=
  exprs.map fun expr => (slot, .expr expr)

/-- The statements of a block. -/
def ofStmts (stmts : List Stmt) : ReadParts :=
  stmts.map fun stmt => (.entry, .stmt stmt)

/-- The declarations of a list. -/
def ofMembers (members : List Member) : ReadParts :=
  members.map fun member => (.entry, .member member)

@[simp]
theorem exprs_ofExprs (exprs : List Expr) :
    (ofExprs there exprs).exprs slot = if there = slot then exprs else [] := by
  induction exprs with
  | nil => simp [ofExprs]
  | cons expr rest ih =>
      by_cases same : there = slot <;> simp_all [ofExprs]

@[simp]
theorem stmts_ofExprs (exprs : List Expr) : (ofExprs there exprs).stmts slot = [] := by
  induction exprs with
  | nil => rfl
  | cons expr rest ih => simp_all [ofExprs]

@[simp]
theorem exprs_ofStmts (stmts : List Stmt) : (ofStmts stmts).exprs slot = [] := by
  induction stmts with
  | nil => rfl
  | cons stmt rest ih => simp_all [ofStmts]

@[simp]
theorem stmts_ofStmts (stmts : List Stmt) :
    (ofStmts stmts).stmts slot = if .entry = slot then stmts else [] := by
  induction stmts with
  | nil => simp [ofStmts]
  | cons stmt rest ih =>
      by_cases same : Slot.entry = slot <;> simp_all [ofStmts]

@[simp]
theorem members_ofMembers (members : List Member) : (ofMembers members).members = members := by
  induction members with
  | nil => rfl
  | cons member rest ih => simp_all [ofMembers, ReadParts.members]

end ReadParts

open Skeleton (read? readParts?)

mutual

@[simp]
theorem Expr.read?_skeleton : (expr : Expr) → expr.skeleton.read? = some (.expr expr)
  | .literal value => rfl
  | .ident name => rfl
  | .unary op operand => by
      have ih := operand.read?_skeleton
      simp [Expr.skeleton, read?, readParts?, ih, ReadParts.node?, ReadParts.expr?]
  | .binary op lhs rhs => by
      have left := lhs.read?_skeleton
      have right := rhs.read?_skeleton
      simp [Expr.skeleton, read?, readParts?, left, right, ReadParts.node?, ReadParts.expr?]
  | .assign op target value => by
      have left := target.read?_skeleton
      have right := value.read?_skeleton
      simp [Expr.skeleton, read?, readParts?, left, right, ReadParts.node?, ReadParts.expr?]
  | .cast ty operand => by
      have ih := operand.read?_skeleton
      simp [Expr.skeleton, read?, readParts?, ih, ReadParts.node?, ReadParts.expr?]
  | .paren inner => by
      have ih := inner.read?_skeleton
      simp [Expr.skeleton, read?, readParts?, ih, ReadParts.node?, ReadParts.expr?]
  | .invoke callee args => by
      have ofCallee := callee.read?_skeleton
      have ofArgs := Expr.readParts?_inSlot .entry args
      simp [Expr.skeleton, read?, readParts?, ofCallee, ofArgs, ReadParts.node?, ReadParts.expr?]
  | .member target name => by
      have ih := target.read?_skeleton
      simp [Expr.skeleton, read?, readParts?, ih, ReadParts.node?, ReadParts.expr?]
  | .conditional cond thenValue elseValue => by
      have ofCond := cond.read?_skeleton
      have ofThen := thenValue.read?_skeleton
      have ofElse := elseValue.read?_skeleton
      simp [Expr.skeleton, read?, readParts?, ofCond, ofThen, ofElse, ReadParts.node?,
        ReadParts.expr?]

@[simp]
theorem Expr.readParts?_inSlot (slot : Slot) :
    (exprs : List Expr) →
      readParts? (Expr.inSlot slot exprs) = some (ReadParts.ofExprs slot exprs)
  | [] => rfl
  | expr :: rest => by
      have head := expr.read?_skeleton
      have tail := Expr.readParts?_inSlot slot rest
      simp [Expr.inSlot, readParts?, head, tail, ReadParts.ofExprs]

end

@[simp]
theorem Expr.readParts?_optionInSlot (slot : Slot) (expr : Option Expr) :
    readParts? (Expr.optionInSlot slot expr) = some (ReadParts.ofExprs slot expr.toList) := by
  cases expr with
  | none => rfl
  | some value => simp [Expr.optionInSlot, readParts?, ReadParts.ofExprs]

/-- The label of a statement makes statements only. -/
theorem ReadParts.node?_stmt_label (parts : ReadParts) (form : StmtForm) :
    parts.node? form.label = (parts.form? form.label).map (.stmt ⟨[], ·⟩) := by
  cases form <;>
    simp [StmtForm.label, ReadParts.node?, ReadParts.expr?, ReadParts.memberForm?]

/-- The label of a declaration makes declarations only. -/
theorem ReadParts.node?_member_label (parts : ReadParts) (form : MemberForm) :
    parts.node? form.label = (parts.memberForm? form.label).map (.member ⟨[], ·⟩) := by
  cases form <;>
    simp [MemberForm.label, ReadParts.node?, ReadParts.expr?, ReadParts.form?]

/-- The start of a counting loop is read as in its normal form. -/
theorem ForInit.readParts?_inSlots (init : Option ForInit) :
    ∃ parts : ReadParts, readParts? (ForInit.inSlots init) = some parts ∧
      parts.stmts .body = [] ∧ parts.exprs .operand = [] ∧ parts.exprs .test = [] ∧
      parts.exprs .update = [] ∧
      ∀ rest : ReadParts, rest.exprs .initial = [] → rest.exprs .start = [] →
        (parts ++ rest).forInit (ForInit.declared? init) = ForInit.normal init := by
  cases init with
  | none =>
      refine ⟨[], rfl, rfl, rfl, rfl, rfl, ?_⟩
      intro rest _ noStart
      simp [ForInit.declared?, ReadParts.forInit, ForInit.normal, noStart]
  | some init =>
      cases init with
      | declare decl =>
          refine ⟨_, Expr.readParts?_optionInSlot .initial decl.init, ?_⟩
          refine ⟨by simp, by simp, by simp, by simp, ?_⟩
          intro rest noInitial _
          simp [ForInit.declared?, ReadParts.forInit, ForInit.normal, noInitial]
      | run exprs =>
          refine ⟨_, Expr.readParts?_inSlot .start exprs, ?_⟩
          refine ⟨by simp, by simp, by simp, by simp, ?_⟩
          intro rest _ noStart
          cases exprs <;>
            simp [ForInit.declared?, ReadParts.forInit, ForInit.normal, noStart]

mutual

theorem Stmt.read?_skeleton : (stmt : Stmt) → stmt.skeleton.read? = some (.stmt stmt.normal)
  | ⟨trivia, form⟩ => by
      have ofForm := form.form?_inSlots
      cases readable : readParts? form.inSlots with
      | none => simp [readable] at ofForm
      | some parts =>
          simp only [readable, Option.bind_some] at ofForm
          simp [Stmt.skeleton, read?, readable, ReadParts.node?_stmt_label, ofForm, Stmt.normal]

theorem StmtForm.form?_inSlots :
    (form : StmtForm) →
      ((readParts? form.inSlots).bind fun parts => parts.form? form.label) = some form.normal
  | .block body => by
      have ofBody := Stmt.readParts?_entries body
      simp [StmtForm.inSlots, ofBody, StmtForm.label, ReadParts.form?, StmtForm.normal]
  | .declare decl => by
      simp [StmtForm.inSlots, StmtForm.label, ReadParts.form?, StmtForm.normal]
  | .expr value => by
      simp [StmtForm.inSlots, readParts?, StmtForm.label, ReadParts.form?, StmtForm.normal]
  | .ifElse cond thenBranch none => by
      have ofThen := thenBranch.read?_skeleton
      simp [StmtForm.inSlots, readParts?, ofThen, StmtForm.label, ReadParts.form?,
        StmtForm.normal]
  | .ifElse cond thenBranch (some elseBranch) => by
      have ofThen := thenBranch.read?_skeleton
      have ofElse := elseBranch.read?_skeleton
      simp [StmtForm.inSlots, readParts?, ofThen, ofElse, StmtForm.label, ReadParts.form?,
        StmtForm.normal]
  | .forLoop init cond update body => by
      rcases ForInit.readParts?_inSlots init with
        ⟨parts, ofInit, noBody, noOperand, noTest, noUpdate, formed⟩
      have ofBody := body.read?_skeleton
      simp [StmtForm.inSlots, readParts?, ofInit, ofBody, StmtForm.label, ReadParts.form?,
        StmtForm.normal, noBody, noOperand, noTest, noUpdate, formed]
  | .whileLoop cond body => by
      have ofBody := body.read?_skeleton
      simp [StmtForm.inSlots, readParts?, ofBody, StmtForm.label, ReadParts.form?,
        StmtForm.normal]
  | .doWhile body cond => by
      have ofBody := body.read?_skeleton
      simp [StmtForm.inSlots, readParts?, ofBody, StmtForm.label, ReadParts.form?,
        StmtForm.normal]
  | .ret value => by
      simp [StmtForm.inSlots, StmtForm.label, ReadParts.form?, StmtForm.normal]
  | .brk => rfl
  | .cont => rfl
  | .empty => rfl

theorem Stmt.readParts?_entries :
    (stmts : List Stmt) →
      readParts? (Stmt.entries stmts) = some (ReadParts.ofStmts (Stmt.normalList stmts))
  | [] => rfl
  | stmt :: rest => by
      have head := stmt.read?_skeleton
      have tail := Stmt.readParts?_entries rest
      simp [Stmt.entries, readParts?, head, tail, ReadParts.ofStmts, Stmt.normalList]

end

mutual

theorem Member.read?_skeleton :
    (member : Member) → member.skeleton.read? = some (.member member.normal)
  | ⟨trivia, form⟩ => by
      have ofForm := form.memberForm?_inSlots
      cases readable : readParts? form.inSlots with
      | none => simp [readable] at ofForm
      | some parts =>
          simp only [readable, Option.bind_some] at ofForm
          simp [Member.skeleton, read?, readable, ReadParts.node?_member_label, ofForm,
            Member.normal]

theorem MemberForm.memberForm?_inSlots :
    (form : MemberForm) →
      ((readParts? form.inSlots).bind fun parts => parts.memberForm? form.label) =
        some form.normal
  | .classDecl modifiers name members => by
      have ofMembers := Member.readParts?_entries members
      simp [MemberForm.inSlots, ofMembers, MemberForm.label, ReadParts.memberForm?,
        MemberForm.normal]
  | .field decl => by
      simp [MemberForm.inSlots, MemberForm.label, ReadParts.memberForm?, MemberForm.normal]
  | .method decl => by
      simp [MemberForm.inSlots, Stmt.readParts?_entries, MemberForm.label,
        ReadParts.memberForm?, MemberForm.normal]

theorem Member.readParts?_entries :
    (members : List Member) →
      readParts? (Member.entries members) =
        some (ReadParts.ofMembers (Member.normalList members))
  | [] => rfl
  | member :: rest => by
      have head := member.read?_skeleton
      have tail := Member.readParts?_entries rest
      simp [Member.entries, readParts?, head, tail, ReadParts.ofMembers, Member.normalList]

end

/-- What is read from the skeleton of a node is its normal form. -/
@[simp]
theorem Node.read?_skeleton (node : Node) : node.skeleton.read? = some node.normal := by
  cases node with
  | member value => exact value.read?_skeleton
  | stmt value => exact value.read?_skeleton
  | expr value => exact value.read?_skeleton

/-- Read a program from its skeleton. -/
def Program.ofSkeleton? (tree : Skeleton) : Option Program :=
  match tree with
  | .node none parts => (readParts? parts).map fun parts => ⟨parts.members⟩
  | .node (some _) _ => none

/-- What is read from the skeleton of a program is its normal form. -/
@[simp]
theorem Program.ofSkeleton?_skeleton (program : Program) :
    Program.ofSkeleton? program.skeleton = some program.normal := by
  simp [Program.ofSkeleton?, Program.skeleton, Member.readParts?_entries, Program.normal]

/-! ## Labels of what is read -/

namespace ReadParts

variable {parts : ReadParts} {label : Label}

theorem label_of_expr? {expr : Expr} (read : parts.expr? label = some expr) :
    expr.label = label := by
  unfold expr? at read
  split at read <;> cases read <;> rfl

@[simp]
theorem declared?_forInit (parts : ReadParts) (declared : Option (String × String)) :
    ForInit.declared? (parts.forInit declared) = declared := by
  cases declared with
  | some binder => rfl
  | none =>
      simp only [forInit]
      split <;> rfl

theorem label_of_form? {form : StmtForm} (read : parts.form? label = some form) :
    form.label = label := by
  unfold form? at read
  split at read <;> cases read <;> simp [StmtForm.label]

theorem label_of_memberForm? {form : MemberForm} (read : parts.memberForm? label = some form) :
    form.label = label := by
  unfold memberForm? at read
  split at read <;> cases read <;> rfl

theorem label_of_node? {node : Node} (read : parts.node? label = some node) :
    node.label = label := by
  unfold node? at read
  cases ofExpr : parts.expr? label with
  | some expr =>
      rw [ofExpr] at read
      cases read
      exact label_of_expr? ofExpr
  | none =>
      cases ofForm : parts.form? label with
      | some form =>
          rw [ofExpr, ofForm] at read
          cases read
          exact label_of_form? ofForm
      | none =>
          rw [ofExpr, ofForm] at read
          rcases Option.map_eq_some_iff.mp read with ⟨form, ofMember, rfl⟩
          exact label_of_memberForm? ofMember

end ReadParts

theorem ReadParts.expr?_of_node? {parts : ReadParts} {label : Label} {expr : Expr}
    (read : parts.node? label = some (.expr expr)) : parts.expr? label = some expr := by
  unfold node? at read
  cases ofExpr : parts.expr? label with
  | some other =>
      rw [ofExpr] at read
      cases read
      rfl
  | none => cases ofForm : parts.form? label <;> simp [ofExpr, ofForm] at read

/-- A node that is read has the label of its skeleton. -/
theorem Skeleton.label?_of_read? {tree : Skeleton} {node : Node}
    (read : tree.read? = some node) : tree.label? = some node.label := by
  rcases tree with ⟨label, parts⟩
  cases label with
  | none => cases readable : readParts? parts <;> simp [Skeleton.read?, readable] at read
  | some label =>
      cases readable : readParts? parts with
      | none => simp [Skeleton.read?, readable] at read
      | some parts =>
          simp only [Skeleton.read?, readable] at read
          simp [ReadParts.label_of_node? read]

/-- What reads as a single operand is one. -/
theorem Skeleton.eq_singleton_of_readParts? {parts : List (Slot × Skeleton)} {slot : Slot}
    {node : Node} (read : readParts? parts = some [(slot, node)]) :
    ∃ tree, parts = [(slot, tree)] := by
  match parts with
  | [] => simp [readParts?] at read
  | [(there, tree)] =>
      simp only [readParts?, Option.pure_def, Option.bind_eq_bind, Option.bind_eq_some_iff,
        Option.some.injEq, List.cons.injEq, Prod.mk.injEq] at read
      rcases read with ⟨_, _, _, _, ⟨rfl, _⟩, _⟩
      exact ⟨tree, rfl⟩
  | (_, _) :: (_, _) :: rest =>
      simp only [readParts?, Option.pure_def, Option.bind_eq_bind, Option.bind_eq_some_iff,
        Option.some.injEq, List.cons.injEq] at read
      rcases read with ⟨_, _, _, ⟨_, _, _, _, rfl⟩, _, impossible⟩
      cases impossible

/-- A cast or a pair of parentheses that can be read has one operand and nothing else. -/
theorem Skeleton.eq_operand_of_read? {tree : Skeleton} {expr : Expr}
    (read : tree.read? = some (.expr expr))
    (unwraps : (∃ ty, expr.label = .cast ty) ∨ expr.label = .paren) :
    ∃ operand, tree = .node (some expr.label) [(.operand, operand)] := by
  have label := Skeleton.label?_of_read? read
  rcases tree with ⟨_, parts⟩
  cases label
  cases readable : readParts? parts with
  | none => simp [Skeleton.read?, readable] at read
  | some nodes =>
      simp only [Skeleton.read?, readable, Option.bind_eq_bind, Option.bind_some] at read
      have single : ∃ node, nodes = [(.operand, node)] := by
        have made : ReadParts.expr? nodes expr.label = some expr :=
          ReadParts.expr?_of_node? read
        rcases unwraps with ⟨ty, cast⟩ | paren
        · rw [cast] at made
          unfold ReadParts.expr? at made
          split at made <;> simp_all
        · rw [paren] at made
          unfold ReadParts.expr? at made
          split at made <;> simp_all
      rcases single with ⟨node, rfl⟩
      rcases Skeleton.eq_singleton_of_readParts? readable with ⟨operand, rfl⟩
      exact ⟨operand, rfl⟩

/-! ## Tests on skeletons -/

namespace Pass

variable (pass : Pass)

/-- Whether the node with this skeleton can be selected. -/
def isCandidateAt (tree : Skeleton) : Bool :=
  tree.read?.any pass.isCandidate

/-- Whether the node with this skeleton mentions a marker that the kind guards. -/
def shieldsAt (tree : Skeleton) : Bool :=
  tree.read?.any pass.shields

@[simp]
theorem isCandidateAt_skeleton (node : Node) :
    pass.isCandidateAt node.skeleton = pass.isCandidate node := by
  simp [isCandidateAt, isCandidate_normal]

@[simp]
theorem shieldsAt_skeleton (node : Node) : pass.shieldsAt node.skeleton = pass.shields node := by
  simp [shieldsAt, shields_normal]

/-- A shielded node is not selected. -/
theorem isCandidateAt_of_shieldsAt {tree : Skeleton} (shielded : pass.shieldsAt tree = true) :
    pass.isCandidateAt tree = false := by
  cases read : tree.read? with
  | none => simp [isCandidateAt, read]
  | some node =>
      simp only [shieldsAt, read, Option.any_some] at shielded
      simp [isCandidateAt, read, isCandidate, shielded]

/-- The program as a whole is nothing that a pass could select. -/
@[simp]
theorem isCandidateAt_node_none (parts : List (Slot × Skeleton)) :
    pass.isCandidateAt (.node none parts) = false := by
  cases readable : readParts? parts <;> simp [isCandidateAt, read?, readable]

end Pass

end Whittle

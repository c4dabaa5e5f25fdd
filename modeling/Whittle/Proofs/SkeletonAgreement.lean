import Whittle.Proofs.SkeletonReduction

/-!
# Passes on programs and on skeletons agree

Constructor by constructor, a node is rebuilt as its skeleton is: the value is
the skeleton of the rebuilt node, and the candidates and the record of changes
are the same, for every mode.  `apply_skeleton` says so for programs, and
`reduceParts_skeleton` for the declarations that they are made of.

Rebuilt programs are in normal form, so `ofSkeleton?_apply` gets them back from
their skeletons, and passes that do the same to skeletons have the same outcome.
-/

namespace Whittle

/-! ## Passes on programs are passes on skeletons -/

open Skeleton

@[simp]
theorem Pass.sweepsAt_expr (pass : Pass) (slot : Slot) (expr : Expr) :
    pass.sweepsAt slot expr.skeleton = false := by
  unfold sweepsAt
  split
  · next tree => cases expr <;> simp [Expr.skeleton] at tree
  · rfl

theorem Slot.fill_operand (shielded : Bool) (before : Expr) (after : Option Expr) :
    Slot.fill .operand shielded before.skeleton (after.map Expr.skeleton) =
      (keepIf shielded before after).map fun expr => [(.operand, expr.skeleton)] := by
  cases after <;> cases shielded <;> rfl

section Expressions

variable (pass : Pass) (shielded : Bool)

/-- A rebuilt expression agrees with its rebuilt skeleton. -/
def Expr.ReducesAlike (expr : Expr) : Prop :=
  expr.skeleton.reduce pass = Option.map Expr.skeleton <$> expr.reduce pass

variable {pass}

/-- An operand that is rebuilt before the other parts of its node. -/
theorem Expr.ReducesAlike.operand {expr : Expr} (alike : expr.ReducesAlike pass)
    (rest : List (Slot × Skeleton)) :
    reduceParts pass shielded ((.operand, expr.skeleton) :: rest) = do
      let expr' ← expr.reduce pass
      let rest' ← reduceParts pass shielded rest
      return do return (.operand, (← keepIf shielded expr expr').skeleton) :: (← rest') := by
  rw [reduceParts_cons, alike]
  simp only [pass.sweepsAt_expr, Bool.false_eq_true, if_false, bind_map_left, Slot.fill_operand]
  refine bind_congr fun expr' => bind_congr fun rest' => ?_
  cases keepIf shielded expr expr' <;> cases rest' <;> rfl

/-- A node is rebuilt alike if it is whether or not it is selected. -/
theorem Expr.ReducesAlike.of_visit {expr : Expr} {selected kept : Survey (Option Expr)}
    (visited : expr.reduce pass = pass.visit (.expr expr) selected kept)
    (ofSelected : pass.isCandidate (.expr expr) = true →
      expr.skeleton.reduceSelected pass = Option.map Expr.skeleton <$> selected)
    (ofKept :
      Option.map (.node (some expr.label)) <$>
          reduceParts pass (pass.shields (.expr expr)) expr.skeleton.parts =
        Option.map Expr.skeleton <$> kept) :
    expr.ReducesAlike pass := by
  have candidate : pass.isCandidateAt expr.skeleton = pass.isCandidate (.expr expr) :=
    pass.isCandidateAt_skeleton (.expr expr)
  have shields : pass.shieldsAt expr.skeleton = pass.shields (.expr expr) :=
    pass.shieldsAt_skeleton (.expr expr)
  have label : expr.skeleton.label? = some expr.label := Node.label?_skeleton (.expr expr)
  have keptAlike : expr.skeleton.reduceKept pass = Option.map Expr.skeleton <$> kept := by
    rw [← ofKept, reduceKept, shields, label]
    rfl
  rw [ReducesAlike, visited, reduce_eq, candidate, keptAlike, pass.visit_eq_choose,
    pass.map_choose]
  exact pass.choose_congr ofSelected

variable (pass)

/-- What is inside one pair of parentheses, if the expression is one. -/
def Expr.unparenthesized : Expr → Expr
  | .paren inner => inner
  | expr => expr

@[simp]
theorem Expr.skeleton_unparenthesized (expr : Expr) :
    expr.skeleton.unparenthesized = expr.unparenthesized.skeleton := by
  cases expr <;> rfl

/-- A selected cast gives way to its operand without one pair of parentheses. -/
theorem Expr.reduce_cast (ty : String) (operand : Expr) :
    Expr.reduce pass (.cast ty operand) =
      pass.visit (.expr (.cast ty operand)) (operand.unparenthesized.reduce pass) do
        let operand' ← operand.reduce pass
        let kept := keepIf (pass.shields (.expr (.cast ty operand))) operand operand'
        return do return .cast ty (← kept) := by
  cases operand <;> rfl

mutual

theorem Expr.reducesAlike : (expr : Expr) → expr.ReducesAlike pass
  | .literal value => by
      refine .of_visit (by rw [Expr.reduce]) ?_ ?_
      · intro candidate
        simp [reduceSelected, Pass.revisited?, Pass.replacement, Expr.skeleton]
      · simp [Expr.skeleton, Expr.label]
  | .ident name => by
      refine .of_visit (by rw [Expr.reduce]) ?_ ?_
      · intro candidate
        simp [reduceSelected, Pass.revisited?, Pass.replacement, Expr.skeleton]
      · simp [Expr.skeleton, Expr.label]
  | .unary op operand => by
      have ih := operand.reducesAlike
      refine .of_visit (by rw [Expr.reduce]) ?_ ?_
      · intro candidate
        simp [reduceSelected, Pass.revisited?, Pass.replacement, Expr.skeleton]
      · simp only [Expr.skeleton, parts_node, ih.operand, reduceParts_nil, map_bind, map_pure,
          pure_bind]
        refine bind_congr fun operand' => ?_
        cases keepIf (pass.shields (.expr (.unary op operand))) operand operand' <;> rfl
  | .binary op lhs rhs => by
      have left := lhs.reducesAlike
      have right := rhs.reducesAlike
      refine .of_visit (by rw [Expr.reduce]) ?_ ?_
      · intro candidate
        have kind := pass.removedBy?_of_isCandidate_expr candidate
        simp only [Expr.label, Label.removedBy?, Option.some.injEq] at kind
        simp [reduceSelected, Pass.revisited?, Pass.replacement, Expr.skeleton, ← kind,
          RemovalKind.revisits]
      · simp only [Expr.skeleton, parts_node, left.operand, right.operand, reduceParts_nil,
          map_bind, map_pure, pure_bind, bind_assoc]
        refine bind_congr fun lhs' => bind_congr fun rhs' => ?_
        cases keepIf (pass.shields (.expr (.binary op lhs rhs))) lhs lhs' <;>
          cases keepIf (pass.shields (.expr (.binary op lhs rhs))) rhs rhs' <;> rfl
  | .assign op target value => by
      have left := target.reducesAlike
      have right := value.reducesAlike
      refine .of_visit (by rw [Expr.reduce]) ?_ ?_
      · intro candidate
        simp [reduceSelected, Pass.revisited?, Pass.replacement, Expr.skeleton]
      · simp only [Expr.skeleton, parts_node, left.operand, right.operand, reduceParts_nil,
          map_bind, map_pure, pure_bind, bind_assoc]
        refine bind_congr fun target' => bind_congr fun value' => ?_
        cases keepIf (pass.shields (.expr (.assign op target value))) target target' <;>
          cases keepIf (pass.shields (.expr (.assign op target value))) value value' <;> rfl
  | .cast ty operand => by
      have ih := operand.reducesAlike
      have inside : operand.unparenthesized.ReducesAlike pass := by
        cases operand with
        | paren inner => exact inner.reducesAlike
        | _ => exact ih
      refine .of_visit (Expr.reduce_cast pass ty operand) ?_ ?_
      · intro candidate
        have kind := pass.removedBy?_of_isCandidate_expr candidate
        simp only [Expr.label, Label.removedBy?, Option.some.injEq] at kind
        simp only [reduceSelected, Pass.revisited?, Pass.replacement, Expr.skeleton, ← kind,
          RemovalKind.revisits, if_true, Expr.skeleton_unparenthesized]
        exact inside
      · simp only [Expr.skeleton, parts_node, ih.operand, reduceParts_nil, map_bind, map_pure,
          pure_bind]
        refine bind_congr fun operand' => ?_
        cases keepIf (pass.shields (.expr (.cast ty operand))) operand operand' <;> rfl
  | .paren inner => by
      have ih := inner.reducesAlike
      refine .of_visit (by rw [Expr.reduce]) ?_ ?_
      · intro candidate
        have kind := pass.removedBy?_of_isCandidate_expr candidate
        simp only [Expr.label, Label.removedBy?, Option.some.injEq] at kind
        simp only [reduceSelected, Pass.revisited?, Pass.replacement, Expr.skeleton, ← kind,
          RemovalKind.revisits, if_true]
        exact ih
      · simp only [Expr.skeleton, parts_node, ih.operand, reduceParts_nil, map_bind, map_pure,
          pure_bind]
        refine bind_congr fun inner' => ?_
        cases keepIf (pass.shields (.expr (.paren inner))) inner inner' <;> rfl
  | .invoke callee args => by
      have ofCallee := callee.reducesAlike
      have ofArgs :=
        Expr.reduceParts_inSlot .entry rfl (pass.shields (.expr (.invoke callee args))) args
      refine .of_visit (by rw [Expr.reduce]) ?_ ?_
      · intro candidate
        simp [reduceSelected, Pass.revisited?, Pass.replacement, Expr.skeleton]
      · simp only [Expr.skeleton, parts_node, ofCallee.operand, ofArgs, map_bind, map_pure,
          bind_map_left]
        refine bind_congr fun callee' => bind_congr fun args' => ?_
        cases keepIf (pass.shields (.expr (.invoke callee args))) callee callee' <;> rfl
  | .member target name => by
      have ih := target.reducesAlike
      refine .of_visit (by rw [Expr.reduce]) ?_ ?_
      · intro candidate
        simp [reduceSelected, Pass.revisited?, Pass.replacement, Expr.skeleton]
      · simp only [Expr.skeleton, parts_node, ih.operand, reduceParts_nil, map_bind, map_pure,
          pure_bind]
        refine bind_congr fun target' => ?_
        cases keepIf (pass.shields (.expr (.member target name))) target target' <;> rfl
  | .conditional cond thenValue elseValue => by
      have ofCond := cond.reducesAlike
      have ofThen := thenValue.reducesAlike
      have ofElse := elseValue.reducesAlike
      refine .of_visit (by rw [Expr.reduce]) ?_ ?_
      · intro candidate
        simp [reduceSelected, Pass.revisited?, Pass.replacement, Expr.skeleton]
      · simp only [Expr.skeleton, parts_node, ofCond.operand, ofThen.operand, ofElse.operand,
          reduceParts_nil, map_bind, map_pure, pure_bind, bind_assoc]
        refine bind_congr fun cond' => bind_congr fun then' => bind_congr fun else' => ?_
        let shielded := pass.shields (.expr (.conditional cond thenValue elseValue))
        cases keepIf shielded cond cond' <;> cases keepIf shielded thenValue then' <;>
          cases keepIf shielded elseValue else' <;> rfl

/-- Expressions in a slot whose gaps close are rebuilt as a list. -/
theorem Expr.reduceParts_inSlot (slot : Slot) (closes : slot.gap = .closes) (shielded : Bool) :
    (exprs : List Expr) →
      reduceParts pass shielded (Expr.inSlot slot exprs) =
        (fun exprs' => some (Expr.inSlot slot exprs')) <$> Expr.reduceList pass exprs
  | [] => by simp [Expr.inSlot, Expr.reduceList]
  | expr :: rest => by
      have head := expr.reducesAlike
      have tail := Expr.reduceParts_inSlot slot closes shielded rest
      rw [ReducesAlike] at head
      simp only [Expr.inSlot, reduceParts_cons, pass.sweepsAt_expr, Bool.false_eq_true, if_false,
        head, tail, bind_map_left, Expr.reduceList, map_bind, map_pure]
      refine bind_congr fun expr' => bind_congr fun rest' => ?_
      cases expr' <;> simp [Slot.fill, closes, Expr.inSlot]

end

/-- An expression that may be missing is rebuilt as such. -/
theorem Expr.reduceParts_optionInSlot (slot : Slot) (closes : slot.gap = .closes)
    (shielded : Bool) (expr : Option Expr) :
    reduceParts pass shielded (Expr.optionInSlot slot expr) =
      (fun expr' => some (Expr.optionInSlot slot expr')) <$> Expr.reduceOption pass expr := by
  cases expr with
  | none => simp [Expr.optionInSlot, Expr.reduceOption]
  | some value =>
      have alike := value.reducesAlike pass
      rw [ReducesAlike] at alike
      simp only [Expr.optionInSlot, reduceParts_cons, pass.sweepsAt_expr, Bool.false_eq_true,
        if_false, alike, reduceParts_nil, pure_bind, bind_map_left, Expr.reduceOption]
      rw [map_eq_pure_bind]
      refine bind_congr fun value' => ?_
      cases value' <;> simp only [Slot.fill, closes] <;> rfl

theorem ForInit.reduceParts_inSlots (shielded : Bool) (init : Option ForInit) :
    reduceParts pass shielded (ForInit.inSlots init) =
      (fun init' => some (ForInit.inSlots init')) <$> ForInit.reduce pass init := by
  match init with
  | none => simp [ForInit.inSlots, ForInit.reduce]
  | some (.declare decl) =>
      simp only [ForInit.inSlots, Expr.reduceParts_optionInSlot pass .initial rfl, ForInit.reduce,
        LocalDecl.reduce, map_eq_pure_bind, bind_assoc, pure_bind]
  | some (.run exprs) =>
      simp only [ForInit.inSlots, Expr.reduceParts_inSlot pass .start rfl, ForInit.reduce,
        map_eq_pure_bind, bind_assoc, pure_bind]
      refine bind_congr fun exprs' => ?_
      cases exprs' <;> rfl

/-- The start of a counting loop declares the same variable after it was rebuilt. -/
theorem ForInit.declared?_reduce (init : Option ForInit) (mode : Mode) :
    ForInit.declared? (ForInit.reduce pass init mode).value = ForInit.declared? init := by
  match init with
  | none => rfl
  | some (.declare decl) => rfl
  | some (.run exprs) =>
      simp only [ForInit.reduce, Survey.bind_apply, Survey.pure_apply]
      split <;> rfl

theorem ForInit.bind_reduce_congr {α : Type} {init : Option ForInit}
    {next next' : Option ForInit → Survey α}
    (same : ∀ init', ForInit.declared? init' = ForInit.declared? init → next init' = next' init') :
    ForInit.reduce pass init >>= next = ForInit.reduce pass init >>= next' := by
  funext mode
  simp only [Survey.bind_apply, same _ (ForInit.declared?_reduce pass init mode)]

end Expressions

section Statements

variable (pass : Pass) (shielded : Bool)

/-- A rebuilt statement agrees with its rebuilt skeleton. -/
def Stmt.ReducesAlike (stmt : Stmt) : Prop :=
  stmt.skeleton.reduce pass = Option.map Stmt.skeleton <$> stmt.reduce pass

variable {pass}

/-- A body that is rebuilt before the other parts of its node. -/
theorem Stmt.ReducesAlike.body {stmt : Stmt} (alike : stmt.ReducesAlike pass)
    (rest : List (Slot × Skeleton)) :
    reduceParts pass shielded ((.body, stmt.skeleton) :: rest) = do
      let stmt' ← stmt.reduce pass
      let rest' ← reduceParts pass shielded rest
      return do return (.body, (stmt'.getD .nothing).skeleton) :: (← rest') := by
  have noSweep : pass.sweepsAt .body stmt.skeleton = false := by
    unfold Pass.sweepsAt
    split <;> simp_all
  rw [reduceParts_cons, noSweep, alike]
  simp only [Bool.false_eq_true, if_false, bind_map_left]
  refine bind_congr fun stmt' => bind_congr fun rest' => ?_
  cases stmt' <;> cases rest' <;> rfl

/-- A second branch that is rebuilt after the other parts of its node. -/
theorem Stmt.ReducesAlike.otherwise {stmt : Stmt} (alike : stmt.ReducesAlike pass) :
    reduceParts pass shielded [(.otherwise, stmt.skeleton)] = do
      let stmt' ← stmt.reduce pass
      return some (stmt'.toList.map fun stmt' => (.otherwise, stmt'.skeleton)) := by
  have noSweep : pass.sweepsAt .otherwise stmt.skeleton = false := by
    unfold Pass.sweepsAt
    split <;> simp_all
  rw [reduceParts_cons, noSweep, alike]
  simp only [Bool.false_eq_true, if_false, bind_map_left, reduceParts_nil, pure_bind]
  refine bind_congr fun stmt' => ?_
  cases stmt' <;> rfl

theorem Pass.sweepsAt_stmt (pass : Pass) (stmt : Stmt) :
    pass.sweepsAt .entry stmt.skeleton = pass.sweeps stmt := by
  rcases stmt with ⟨trivia, form⟩
  cases kind : pass.kind with
  | block =>
      cases form with
      | block body =>
          cases body <;>
            simp [sweepsAt, sweeps, kind, Stmt.skeleton, StmtForm.label, StmtForm.inSlots,
              Stmt.entries, StmtForm.isEmptyBlock]
      | _ =>
          simp [sweepsAt, sweeps, kind, Stmt.skeleton, StmtForm.label, StmtForm.isEmptyBlock]
  | _ => simp [sweepsAt, sweeps, kind]

/-- A selected statement is deleted unless it is a block. -/
theorem Stmt.replacement_skeleton (pass : Pass) (form : StmtForm) :
    pass.replacement (Stmt.skeleton ⟨[], form⟩) =
      (if pass.kind = .block then form.replacement else none).map Stmt.skeleton := by
  cases kind : pass.kind with
  | block =>
      cases form <;>
        simp only [Pass.replacement, kind, Stmt.skeleton, StmtForm.label, if_true,
          StmtForm.replacement] <;>
        rfl
  | _ => cases form <;> simp [Pass.replacement, kind, Stmt.skeleton, StmtForm.label]

variable (pass)

mutual

theorem Stmt.reducesAlike : (stmt : Stmt) → stmt.ReducesAlike pass
  | ⟨trivia, form⟩ => by
      have candidate : pass.isCandidateAt (Stmt.skeleton ⟨[], form⟩) =
          pass.isCandidate (.stmt ⟨[], form⟩) :=
        pass.isCandidateAt_skeleton (.stmt ⟨[], form⟩)
      have shields : pass.shieldsAt (Stmt.skeleton ⟨[], form⟩) = pass.shields (.stmt ⟨[], form⟩) :=
        pass.shieldsAt_skeleton (.stmt ⟨[], form⟩)
      have kept := form.reduceParts_inSlots (pass.shields (.stmt ⟨[], form⟩))
      have keptAlike : (Stmt.skeleton ⟨[], form⟩).reduceKept pass =
          Option.map Stmt.skeleton <$> Stmt.ofForm <$>
            form.reduceParts pass (pass.shields (.stmt ⟨[], form⟩)) := by
        rw [← kept, reduceKept, shields]
        rfl
      have final : pass.revisited? (Stmt.skeleton ⟨[], form⟩) = none := by
        rw [Pass.revisited?, Stmt.replacement_skeleton]
        cases kind : pass.kind <;> simp [RemovalKind.revisits]
      show (Stmt.skeleton ⟨[], form⟩).reduce pass = _
      rw [reduce_eq, candidate, keptAlike, Stmt.reduce, pass.visit_eq_choose, pass.map_choose,
        reduceSelected, final, Stmt.replacement_skeleton, map_pure]
      rfl

theorem StmtForm.reduceParts_inSlots (shielded : Bool) :
    (form : StmtForm) →
      Option.map (.node (some form.label)) <$> reduceParts pass shielded form.inSlots =
        Option.map Stmt.skeleton <$> Stmt.ofForm <$> form.reduceParts pass shielded
  | .block body => by
      have ofBody := Stmt.reduceParts_entries shielded body
      simp only [StmtForm.inSlots, ofBody, StmtForm.reduceParts, map_eq_pure_bind, bind_assoc,
        pure_bind]
      rfl
  | .declare decl => by
      simp only [StmtForm.inSlots, Expr.reduceParts_optionInSlot pass .initial rfl,
        StmtForm.reduceParts, LocalDecl.reduce, map_eq_pure_bind, bind_assoc, pure_bind]
      rfl
  | .expr value => by
      simp only [StmtForm.inSlots, (value.reducesAlike pass).operand, reduceParts_nil,
        StmtForm.reduceParts, map_eq_pure_bind, bind_assoc, pure_bind]
      refine bind_congr fun value' => ?_
      cases keepIf shielded value value' <;> rfl
  | .ifElse cond thenBranch none => by
      have ofThen := thenBranch.reducesAlike
      simp only [StmtForm.inSlots, (cond.reducesAlike pass).operand, ofThen.body, reduceParts_nil,
        StmtForm.reduceParts, map_eq_pure_bind, bind_assoc, pure_bind]
      refine bind_congr fun cond' => bind_congr fun then' => ?_
      cases keepIf shielded cond cond' <;> rfl
  | .ifElse cond thenBranch (some elseBranch) => by
      have ofThen := thenBranch.reducesAlike
      have ofElse := elseBranch.reducesAlike
      simp only [StmtForm.inSlots, (cond.reducesAlike pass).operand, ofThen.body,
        ofElse.otherwise, StmtForm.reduceParts, map_eq_pure_bind, bind_assoc, pure_bind]
      refine bind_congr fun cond' => bind_congr fun then' => bind_congr fun else' => ?_
      cases keepIf shielded cond cond' <;> cases else' <;> rfl
  | .forLoop init cond update body => by
      have ofBody := body.reducesAlike
      simp only [StmtForm.inSlots, reduceParts_append, ForInit.reduceParts_inSlots,
        Expr.reduceParts_optionInSlot pass .test rfl, Expr.reduceParts_inSlot pass .update rfl,
        ofBody.body, reduceParts_nil, StmtForm.reduceParts, map_eq_pure_bind, bind_assoc,
        pure_bind]
      refine ForInit.bind_reduce_congr pass fun init' same => ?_
      refine bind_congr fun cond' => bind_congr fun update' => bind_congr fun body' => ?_
      simp [Stmt.ofForm, Stmt.skeleton, StmtForm.label, StmtForm.inSlots, same]
  | .whileLoop cond body => by
      have ofBody := body.reducesAlike
      simp only [StmtForm.inSlots, (cond.reducesAlike pass).operand, ofBody.body, reduceParts_nil,
        StmtForm.reduceParts, map_eq_pure_bind, bind_assoc, pure_bind]
      refine bind_congr fun cond' => bind_congr fun body' => ?_
      cases keepIf shielded cond cond' <;> rfl
  | .doWhile body cond => by
      have ofBody := body.reducesAlike
      simp only [StmtForm.inSlots, (cond.reducesAlike pass).operand, ofBody.body, reduceParts_nil,
        StmtForm.reduceParts, map_eq_pure_bind, bind_assoc, pure_bind]
      refine bind_congr fun body' => bind_congr fun cond' => ?_
      cases keepIf shielded cond cond' <;> rfl
  | .ret value => by
      simp only [StmtForm.inSlots, Expr.reduceParts_optionInSlot pass .initial rfl,
        StmtForm.reduceParts, map_eq_pure_bind, bind_assoc, pure_bind]
      rfl
  | .brk => by simp [StmtForm.inSlots, StmtForm.reduceParts]; rfl
  | .cont => by simp [StmtForm.inSlots, StmtForm.reduceParts]; rfl
  | .empty => by simp [StmtForm.inSlots, StmtForm.reduceParts]; rfl

theorem Stmt.reduceParts_entries (shielded : Bool) :
    (stmts : List Stmt) →
      reduceParts pass shielded (Stmt.entries stmts) =
        (fun stmts' => some (Stmt.entries stmts')) <$> Stmt.reduceList pass stmts
  | [] => by simp [Stmt.entries, Stmt.reduceList]
  | stmt :: rest => by
      have head := stmt.reducesAlike
      have tail := Stmt.reduceParts_entries shielded rest
      rw [Stmt.ReducesAlike] at head
      simp only [Stmt.entries, reduceParts_cons, pass.sweepsAt_stmt, Stmt.reduceList]
      split
      · simp only [tail, map_bind]
      · simp only [head, tail, bind_map_left, map_bind, map_pure]
        refine bind_congr fun stmt' => bind_congr fun rest' => ?_
        cases stmt' <;> rfl

end

end Statements

section Declarations

variable (pass : Pass)

/-- A selected declaration is deleted. -/
theorem Member.replacement_skeleton (form : MemberForm) :
    pass.replacement (Member.skeleton ⟨[], form⟩) = none := by
  cases kind : pass.kind <;> cases form <;>
    simp [Pass.replacement, kind, Member.skeleton, MemberForm.label]

theorem Pass.sweepsAt_member (slot : Slot) (member : Member) :
    pass.sweepsAt slot member.skeleton = false := by
  rcases member with ⟨trivia, form⟩
  unfold sweepsAt
  split
  · next tree => cases form <;> simp [Member.skeleton, MemberForm.label] at tree
  · rfl

mutual

theorem Member.reduce_skeleton :
    (member : Member) →
      member.skeleton.reduce pass = Option.map Member.skeleton <$> member.reduce pass
  | ⟨trivia, form⟩ => by
      have candidate : pass.isCandidateAt (Member.skeleton ⟨[], form⟩) =
          pass.isCandidate (.member ⟨[], form⟩) :=
        pass.isCandidateAt_skeleton (.member ⟨[], form⟩)
      have keptAlike : (Member.skeleton ⟨[], form⟩).reduceKept pass =
          Option.map Member.skeleton <$> (fun form' => some ⟨[], form'⟩) <$>
            form.reduceParts pass := by
        rw [reduceKept]
        exact form.reduceParts_inSlots _
      have selected : (Member.skeleton ⟨[], form⟩).reduceSelected pass = pure none := by
        simp [reduceSelected, Pass.revisited?, Member.replacement_skeleton]
      show (Member.skeleton ⟨[], form⟩).reduce pass = _
      rw [reduce_eq, candidate, keptAlike, selected, Member.reduce, pass.visit_eq_choose,
        pass.map_choose, map_pure]
      rfl

theorem MemberForm.reduceParts_inSlots (shielded : Bool) :
    (form : MemberForm) →
      Option.map (.node (some form.label)) <$> reduceParts pass shielded form.inSlots =
        Option.map Member.skeleton <$> (fun form' => some ⟨[], form'⟩) <$> form.reduceParts pass
  | .classDecl modifiers name members => by
      have ofMembers := Member.reduceParts_entries shielded members
      simp only [MemberForm.inSlots, ofMembers, MemberForm.reduceParts, map_eq_pure_bind,
        bind_assoc, pure_bind]
      rfl
  | .field decl => by
      simp only [MemberForm.inSlots, Expr.reduceParts_optionInSlot pass .initial rfl,
        MemberForm.reduceParts, map_eq_pure_bind, bind_assoc, pure_bind]
      rfl
  | .method decl => by
      simp only [MemberForm.inSlots, Stmt.reduceParts_entries, MemberForm.reduceParts,
        map_eq_pure_bind, bind_assoc, pure_bind]
      rfl

theorem Member.reduceParts_entries (shielded : Bool) :
    (members : List Member) →
      reduceParts pass shielded (Member.entries members) =
        (fun members' => some (Member.entries members')) <$> Member.reduceList pass members
  | [] => by simp [Member.entries, Member.reduceList]
  | member :: rest => by
      have head := member.reduce_skeleton
      have tail := Member.reduceParts_entries shielded rest
      simp only [Member.entries, reduceParts_cons, pass.sweepsAt_member, Bool.false_eq_true,
        if_false, head, tail, bind_map_left, Member.reduceList, map_bind, map_pure]
      refine bind_congr fun member' => bind_congr fun rest' => ?_
      cases member' <;> rfl

end

/-- Rebuild a node, or delete it. -/
def Node.reduce : Node → Survey (Option Node)
  | .member value => Option.map .member <$> value.reduce pass
  | .stmt value => Option.map .stmt <$> value.reduce pass
  | .expr value => Option.map .expr <$> value.reduce pass

/-- The skeleton of a rebuilt node is its rebuilt skeleton. -/
theorem Node.reduce_skeleton (node : Node) :
    node.skeleton.reduce pass = Option.map Node.skeleton <$> node.reduce pass := by
  have compose {α : Type} (make : α → Node) (survey : Survey (Option α)) :
      Option.map Node.skeleton <$> Option.map make <$> survey =
        Option.map (fun value => (make value).skeleton) <$> survey := by
    simp [Function.comp_def]
  cases node with
  | member value =>
      rw [Node.reduce, compose]
      exact value.reduce_skeleton pass
  | stmt value =>
      rw [Node.reduce, compose]
      exact value.reducesAlike pass
  | expr value =>
      rw [Node.reduce, compose]
      exact value.reducesAlike pass

/--
A pass on a program is a pass on its skeleton: it rebuilds the same parts, meets
as many candidates and records the same changes.
-/
theorem Pass.apply_skeleton (program : Program) (mode : Mode) :
    program.skeleton.reduce pass mode =
      ⟨some (pass.apply program mode).value.skeleton, (pass.apply program mode).candidates,
        (pass.apply program mode).changed⟩ := by
  have candidate : pass.isCandidateAt program.skeleton = false :=
    pass.isCandidateAt_node_none _
  rw [reduce_eq, candidate, reduceKept]
  simp only [Pass.choose, Bool.false_and, Bool.false_eq_true, if_false, Program.skeleton,
    parts_node, label?_node, Member.reduceParts_entries, Survey.bind_apply,
    Survey.map_apply, Survey.pure_apply, Pass.apply, Nat.add_zero, Bool.or_false, Option.map_some]

/-- What a pass makes of the members of a program, as parts of its skeleton. -/
theorem Pass.reduceParts_skeleton (program : Program) (mode : Mode) :
    reduceParts pass (pass.shieldsAt program.skeleton) program.skeleton.parts mode =
      ⟨some (pass.apply program mode).value.skeleton.parts, (pass.apply program mode).candidates,
        (pass.apply program mode).changed⟩ := by
  rw [Program.skeleton, parts_node, Member.reduceParts_entries, Survey.map_apply]
  rfl

end Declarations

/-! ## Rebuilt programs are in normal form -/

section Normal

variable (pass : Pass)

theorem ForInit.normal_reduce (init : Option ForInit) :
    ForInit.normal <$> ForInit.reduce pass init = ForInit.reduce pass init := by
  match init with
  | none => simp [ForInit.reduce, ForInit.normal]
  | some (.declare decl) =>
      simp only [ForInit.reduce, map_eq_pure_bind, bind_assoc, pure_bind]
      rfl
  | some (.run exprs) =>
      simp only [ForInit.reduce, map_eq_pure_bind, bind_assoc, pure_bind]
      refine bind_congr fun exprs' => ?_
      cases exprs' <;> rfl

mutual

theorem Stmt.normal_reduce :
    (stmt : Stmt) → Option.map Stmt.normal <$> stmt.reduce pass = stmt.reduce pass
  | ⟨trivia, form⟩ => by
      have ofForm := form.normal_reduceParts (pass.shields (.stmt ⟨[], form⟩))
      have selected :
          (if pass.kind = .block then form.replacement else none).map Stmt.normal =
            if pass.kind = .block then form.replacement else none := by
        split
        · cases form <;> rfl
        · rfl
      rw [Stmt.reduce, pass.visit_eq_choose, pass.map_choose, map_pure, selected]
      congr 1
      conv =>
        rhs
        rw [← ofForm]
      simp only [map_eq_pure_bind, bind_assoc, pure_bind]
      refine bind_congr fun form' => ?_
      cases form' <;> rfl

theorem StmtForm.normal_reduceParts (shielded : Bool) :
    (form : StmtForm) →
      Option.map StmtForm.normal <$> form.reduceParts pass shielded =
        form.reduceParts pass shielded
  | .block body => by
      have ofBody := Stmt.normal_reduceList body
      conv =>
        rhs
        rw [StmtForm.reduceParts, ← ofBody]
      simp only [StmtForm.reduceParts, map_eq_pure_bind, bind_assoc, pure_bind]
      rfl
  | .declare decl => by
      simp only [StmtForm.reduceParts, map_eq_pure_bind, bind_assoc, pure_bind]
      rfl
  | .expr value => by
      simp only [StmtForm.reduceParts, map_eq_pure_bind, bind_assoc, pure_bind]
      refine bind_congr fun value' => ?_
      cases keepIf shielded value value' <;> rfl
  | .ifElse cond thenBranch none => by
      have ofThen := thenBranch.normal_reduce
      conv =>
        rhs
        rw [StmtForm.reduceParts, ← ofThen]
      simp only [StmtForm.reduceParts, map_eq_pure_bind, bind_assoc, pure_bind]
      refine bind_congr fun cond' => bind_congr fun then' => ?_
      cases keepIf shielded cond cond' <;> cases then' <;> rfl
  | .ifElse cond thenBranch (some elseBranch) => by
      have ofThen := thenBranch.normal_reduce
      have ofElse := elseBranch.normal_reduce
      conv =>
        rhs
        rw [StmtForm.reduceParts, ← ofThen, ← ofElse]
      simp only [StmtForm.reduceParts, map_eq_pure_bind, bind_assoc, pure_bind]
      refine bind_congr fun cond' => bind_congr fun then' => bind_congr fun else' => ?_
      cases keepIf shielded cond cond' <;> cases then' <;> cases else' <;> rfl
  | .forLoop init cond update body => by
      have ofInit := ForInit.normal_reduce pass init
      have ofBody := body.normal_reduce
      conv =>
        rhs
        rw [StmtForm.reduceParts, ← ofInit, ← ofBody]
      simp only [StmtForm.reduceParts, map_eq_pure_bind, bind_assoc, pure_bind]
      refine bind_congr fun init' => bind_congr fun cond' => ?_
      refine bind_congr fun update' => bind_congr fun body' => ?_
      cases body' <;> rfl
  | .whileLoop cond body => by
      have ofBody := body.normal_reduce
      conv =>
        rhs
        rw [StmtForm.reduceParts, ← ofBody]
      simp only [StmtForm.reduceParts, map_eq_pure_bind, bind_assoc, pure_bind]
      refine bind_congr fun cond' => bind_congr fun body' => ?_
      cases keepIf shielded cond cond' <;> cases body' <;> rfl
  | .doWhile body cond => by
      have ofBody := body.normal_reduce
      conv =>
        rhs
        rw [StmtForm.reduceParts, ← ofBody]
      simp only [StmtForm.reduceParts, map_eq_pure_bind, bind_assoc, pure_bind]
      refine bind_congr fun body' => bind_congr fun cond' => ?_
      cases keepIf shielded cond cond' <;> cases body' <;> rfl
  | .ret value => by
      simp only [StmtForm.reduceParts, map_eq_pure_bind, bind_assoc, pure_bind]
      rfl
  | .brk => by rw [StmtForm.reduceParts, map_pure]; rfl
  | .cont => by rw [StmtForm.reduceParts, map_pure]; rfl
  | .empty => by rw [StmtForm.reduceParts, map_pure]; rfl

theorem Stmt.normal_reduceList :
    (stmts : List Stmt) →
      Stmt.normalList <$> Stmt.reduceList pass stmts = Stmt.reduceList pass stmts
  | [] => by rw [Stmt.reduceList, map_pure]; rfl
  | stmt :: rest => by
      have head := stmt.normal_reduce
      have tail := Stmt.normal_reduceList rest
      rw [Stmt.reduceList]
      split
      · rw [map_bind, tail]
      · conv =>
          rhs
          rw [← head, ← tail]
        simp only [map_eq_pure_bind, bind_assoc, pure_bind]
        refine bind_congr fun stmt' => bind_congr fun rest' => ?_
        cases stmt' <;> rfl

end

mutual

theorem Member.normal_reduce :
    (member : Member) → Option.map Member.normal <$> member.reduce pass = member.reduce pass
  | ⟨trivia, form⟩ => by
      have ofForm := form.normal_reduceParts
      rw [Member.reduce, pass.visit_eq_choose, pass.map_choose, map_pure]
      congr 1
      conv =>
        rhs
        rw [← ofForm]
      simp only [map_eq_pure_bind, bind_assoc, pure_bind]
      rfl

theorem MemberForm.normal_reduceParts :
    (form : MemberForm) → MemberForm.normal <$> form.reduceParts pass = form.reduceParts pass
  | .classDecl modifiers name members => by
      have ofMembers := Member.normal_reduceList members
      conv =>
        rhs
        rw [MemberForm.reduceParts, ← ofMembers]
      simp only [MemberForm.reduceParts, map_eq_pure_bind, bind_assoc, pure_bind]
      rfl
  | .field decl => by
      simp only [MemberForm.reduceParts, map_eq_pure_bind, bind_assoc, pure_bind]
      rfl
  | .method decl => by
      have ofBody := Stmt.normal_reduceList pass decl.body
      conv =>
        rhs
        rw [MemberForm.reduceParts, ← ofBody]
      simp only [MemberForm.reduceParts, map_eq_pure_bind, bind_assoc, pure_bind]
      rfl

theorem Member.normal_reduceList :
    (members : List Member) →
      Member.normalList <$> Member.reduceList pass members = Member.reduceList pass members
  | [] => by rw [Member.reduceList, map_pure]; rfl
  | member :: rest => by
      have head := member.normal_reduce
      have tail := Member.normal_reduceList rest
      rw [Member.reduceList]
      conv =>
        rhs
        rw [← head, ← tail]
      simp only [map_eq_pure_bind, bind_assoc, pure_bind]
      refine bind_congr fun member' => bind_congr fun rest' => ?_
      cases member' <;> rfl

end

/-- A pass leaves no comments and no empty lists of starting expressions. -/
theorem Pass.normal_apply (program : Program) (mode : Mode) :
    (pass.apply program mode).value.normal = (pass.apply program mode).value := by
  have ofMembers := congrFun (Member.normal_reduceList pass program.members) mode
  rw [Survey.map_apply] at ofMembers
  have values := congrArg Counted.value ofMembers
  simp only [Pass.apply, Program.normal] at values ⊢
  rw [values]

/-- A rebuilt program is what is read from its skeleton. -/
theorem Pass.ofSkeleton?_apply (program : Program) (mode : Mode) :
    Program.ofSkeleton? (pass.apply program mode).value.skeleton =
      some (pass.apply program mode).value := by
  rw [Program.ofSkeleton?_skeleton, Pass.normal_apply]

end Normal

/-- A pass on a program does nothing but what it does on the skeleton. -/
theorem Pass.apply_eq_of_reduce {first second : Pass} {program other : Program} {mode rest : Mode}
    (same : program.skeleton.reduce first mode = other.skeleton.reduce second rest) :
    first.apply program mode = second.apply other rest := by
  have ofProgram := first.ofSkeleton?_apply program mode
  have ofOther := second.ofSkeleton?_apply other rest
  rw [first.apply_skeleton, second.apply_skeleton, Counted.mk.injEq, Option.some.injEq] at same
  rcases same with ⟨skeleton, candidates, changed⟩
  rw [skeleton, ofOther, Option.some.injEq] at ofProgram
  generalize first.apply program mode = outcome at ofProgram candidates changed
  rcases outcome with ⟨value, met, recorded⟩
  rw [Counted.mk.injEq]
  exact ⟨ofProgram.symm, candidates, changed⟩

end Whittle

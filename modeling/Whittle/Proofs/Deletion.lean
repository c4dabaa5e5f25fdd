import Whittle.Proofs.SkeletonAgreement

/-!
# What a batch deletes

Most kinds delete whatever they select.  What a batch of such a kind leaves of a
program can then be said bottom-up, without a survey: a node is absent if it is
a candidate, or if it cannot do without an operand that is absent and is not
shielded; what is left of any other node is made of what is left of its parts.

`apply_all_eq_remainder` says that a batch leaves just that.
-/

namespace Whittle

/-! ## Operands that a node cannot do without -/

/-- The operands that an expression cannot do without. -/
def Expr.required : Expr → List Expr
  | .literal _ | .ident _ => []
  | .unary _ operand => [operand]
  | .binary _ lhs rhs => [lhs, rhs]
  | .assign _ target value => [target, value]
  | .cast _ operand => [operand]
  | .paren inner => [inner]
  | .invoke callee _ => [callee]
  | .member target _ => [target]
  | .conditional cond thenValue elseValue => [cond, thenValue, elseValue]

/-- The expressions that a statement cannot do without. -/
def StmtForm.required : StmtForm → List Expr
  | .expr value => [value]
  | .ifElse cond _ _ => [cond]
  | .whileLoop cond _ => [cond]
  | .doWhile _ cond => [cond]
  | .block _ | .declare _ | .forLoop .. | .ret _ | .brk | .cont | .empty => []

/-- The expressions that a node cannot do without; a declaration needs none. -/
def Node.required : Node → List Expr
  | .member _ => []
  | .stmt value => value.form.required
  | .expr value => value.required

/-! ## Absent nodes -/

/-- Whether a node is missing once all candidates are deleted. -/
inductive Node.Absent (pass : Pass) : Node → Prop where
  | candidate {node : Node} (isCandidate : pass.isCandidate node = true) : Absent pass node
  /-- A node that is not shielded goes with an operand that it cannot do without. -/
  | operand {node : Node} {operand : Expr} (isRequired : operand ∈ node.required)
      (gone : Absent pass (.expr operand)) (unshielded : pass.shields node = false) :
      Absent pass node

section Absent

variable (pass : Pass)

theorem Node.absent_iff (node : Node) :
    node.Absent pass ↔ pass.isCandidate node = true ∨
      (pass.shields node = false ∧
        ∃ operand ∈ node.required, Node.Absent pass (.expr operand)) := by
  constructor
  · rintro (isCandidate | ⟨isRequired, gone, unshielded⟩)
    · exact .inl isCandidate
    · exact .inr ⟨unshielded, _, isRequired, gone⟩
  · rintro (isCandidate | ⟨unshielded, operand, isRequired, gone⟩)
    · exact .candidate isCandidate
    · exact .operand isRequired gone unshielded

/-- Whether an expression is absent, by its constructors. -/
def Expr.isAbsent (expr : Expr) : Bool :=
  pass.isCandidate (.expr expr) ||
    (!pass.shields (.expr expr) &&
      match expr with
      | .literal _ | .ident _ => false
      | .unary _ operand => operand.isAbsent
      | .binary _ lhs rhs => lhs.isAbsent || rhs.isAbsent
      | .assign _ target value => target.isAbsent || value.isAbsent
      | .cast _ operand => operand.isAbsent
      | .paren inner => inner.isAbsent
      | .invoke callee _ => callee.isAbsent
      | .member target _ => target.isAbsent
      | .conditional cond thenValue elseValue =>
          cond.isAbsent || thenValue.isAbsent || elseValue.isAbsent)

theorem Expr.isAbsent_eq (expr : Expr) :
    expr.isAbsent pass =
      (pass.isCandidate (.expr expr) ||
        (!pass.shields (.expr expr) && expr.required.any (Expr.isAbsent pass))) := by
  cases expr <;> simp [isAbsent, required, Bool.or_assoc]

theorem Expr.sizeOf_lt_of_mem_required {expr operand : Expr}
    (isRequired : operand ∈ expr.required) : sizeOf operand < sizeOf expr := by
  cases expr <;> simp [required] at isRequired <;> grind

theorem Expr.isAbsent_iff (expr : Expr) :
    expr.isAbsent pass = true ↔ Node.Absent pass (.expr expr) := by
  have ofOperand (operand : Expr) (isRequired : operand ∈ expr.required) :
      operand.isAbsent pass = true ↔ Node.Absent pass (.expr operand) :=
    operand.isAbsent_iff
  rw [isAbsent_eq, Node.absent_iff]
  simp only [Bool.or_eq_true, Bool.and_eq_true, Bool.not_eq_true', List.any_eq_true, Node.required]
  refine or_congr_right (and_congr_right fun _ => exists_congr fun operand => ?_)
  exact and_congr_right (ofOperand operand)
termination_by sizeOf expr
decreasing_by exact Expr.sizeOf_lt_of_mem_required isRequired

instance : DecidablePred (Node.Absent pass) := fun node =>
  decidable_of_iff
    ((pass.isCandidate node ||
      (!pass.shields node && node.required.any (Expr.isAbsent pass))) = true) (by
    rw [Node.absent_iff]
    simp [Expr.isAbsent_iff])

theorem Node.required_normal (node : Node) : node.normal.required = node.required := by
  cases node with
  | stmt value =>
      rcases value with ⟨trivia, form⟩
      cases form with
      | ifElse cond thenBranch elseBranch => cases elseBranch <;> rfl
      | _ => rfl
  | _ => rfl

/-- Whether a node is absent does not depend on its comments. -/
theorem Node.absent_normal (node : Node) : node.normal.Absent pass ↔ node.Absent pass := by
  rw [Node.absent_iff, Node.absent_iff pass node, pass.isCandidate_normal, pass.shields_normal,
    node.required_normal]

end Absent

/-! ## What is left of a program -/

section Remainder

variable (pass : Pass)

/-- What is left of a node, unless it is absent. -/
def Pass.left? {α : Type} (node : Node) (remainder : α) : Option α :=
  if node.Absent pass then none else some remainder

theorem Pass.left?_of_normal {α : Type} (node node' : Node) (same : node.normal = node'.normal)
    (remainder : α) : pass.left? node remainder = pass.left? node' remainder := by
  have alike : node.Absent pass ↔ node'.Absent pass := by
    rw [← node.absent_normal, same, node'.absent_normal]
  simp only [left?, alike]

/-- An operand; if it is absent, a shielded node has kept it as it was. -/
def Pass.leftOperand (operand remainder : Expr) : Expr :=
  (pass.left? (.expr operand) remainder).getD operand

/-- A body; the empty statement stands for one that is absent. -/
def Pass.leftBody (body remainder : Stmt) : Stmt :=
  (pass.left? (.stmt body) remainder).getD .nothing

mutual

/-- What is left of an expression that is not absent. -/
def Expr.remainder : Expr → Expr
  | .literal value => .literal value
  | .ident name => .ident name
  | .unary op operand => .unary op (pass.leftOperand operand operand.remainder)
  | .binary op lhs rhs =>
      .binary op (pass.leftOperand lhs lhs.remainder) (pass.leftOperand rhs rhs.remainder)
  | .assign op target value =>
      .assign op (pass.leftOperand target target.remainder)
        (pass.leftOperand value value.remainder)
  | .cast ty operand => .cast ty (pass.leftOperand operand operand.remainder)
  | .paren inner => .paren (pass.leftOperand inner inner.remainder)
  | .invoke callee args =>
      .invoke (pass.leftOperand callee callee.remainder) (Expr.remainders args)
  | .member target name => .member (pass.leftOperand target target.remainder) name
  | .conditional cond thenValue elseValue =>
      .conditional (pass.leftOperand cond cond.remainder)
        (pass.leftOperand thenValue thenValue.remainder)
        (pass.leftOperand elseValue elseValue.remainder)

/-- What is left of the expressions of a list; absent ones are dropped. -/
def Expr.remainders : List Expr → List Expr
  | [] => []
  | expr :: rest => (pass.left? (.expr expr) expr.remainder).toList ++ Expr.remainders rest

end

/-- What is left of an expression that may be missing. -/
def Expr.optionRemainder : Option Expr → Option Expr
  | none => none
  | some expr => pass.left? (.expr expr) (expr.remainder pass)

def LocalDecl.remainder (decl : LocalDecl) : LocalDecl :=
  { decl with init := Expr.optionRemainder pass decl.init }

/-- What is left of the start of a counting loop; a list without expressions is none. -/
def ForInit.remainder : Option ForInit → Option ForInit
  | none => none
  | some (.declare decl) => some (.declare (decl.remainder pass))
  | some (.run exprs) =>
      match Expr.remainders pass exprs with
      | [] => none
      | expr :: rest => some (.run (expr :: rest))

mutual

/-- What is left of a statement that is not absent; its comments are not. -/
def Stmt.remainder : Stmt → Stmt
  | ⟨_, form⟩ => ⟨[], form.remainder⟩

def StmtForm.remainder : StmtForm → StmtForm
  | .block body => .block (Stmt.remainders body)
  | .declare decl => .declare (decl.remainder pass)
  | .expr value => .expr (pass.leftOperand value (value.remainder pass))
  | .ifElse cond thenBranch none =>
      .ifElse (pass.leftOperand cond (cond.remainder pass))
        (pass.leftBody thenBranch thenBranch.remainder) none
  | .ifElse cond thenBranch (some elseBranch) =>
      .ifElse (pass.leftOperand cond (cond.remainder pass))
        (pass.leftBody thenBranch thenBranch.remainder)
        (pass.left? (.stmt elseBranch) elseBranch.remainder)
  | .forLoop init cond update body =>
      .forLoop (ForInit.remainder pass init) (Expr.optionRemainder pass cond)
        (Expr.remainders pass update) (pass.leftBody body body.remainder)
  | .whileLoop cond body =>
      .whileLoop (pass.leftOperand cond (cond.remainder pass)) (pass.leftBody body body.remainder)
  | .doWhile body cond =>
      .doWhile (pass.leftBody body body.remainder) (pass.leftOperand cond (cond.remainder pass))
  | .ret value => .ret (Expr.optionRemainder pass value)
  | .brk => .brk
  | .cont => .cont
  | .empty => .empty

/-- What is left of the statements of a list; absent ones are dropped. -/
def Stmt.remainders : List Stmt → List Stmt
  | [] => []
  | stmt :: rest => (pass.left? (.stmt stmt) stmt.remainder).toList ++ Stmt.remainders rest

end

mutual

/-- What is left of a declaration that is not absent; its comments are not. -/
def Member.remainder : Member → Member
  | ⟨_, form⟩ => ⟨[], form.remainder⟩

def MemberForm.remainder : MemberForm → MemberForm
  | .classDecl modifiers name members => .classDecl modifiers name (Member.remainders members)
  | .field decl => .field { decl with init := Expr.optionRemainder pass decl.init }
  | .method decl => .method { decl with body := Stmt.remainders pass decl.body }

/-- What is left of the declarations of a list; absent ones are dropped. -/
def Member.remainders : List Member → List Member
  | [] => []
  | member :: rest =>
      (pass.left? (.member member) member.remainder).toList ++ Member.remainders rest

end

/-- What is left of a program once all candidates are deleted. -/
def Program.remainder (program : Program) : Program :=
  ⟨Member.remainders pass program.members⟩

end Remainder

/-! ## A batch leaves the remainder -/

/-- Whether what the kind selects is deleted, and nothing else takes its place. -/
def RemovalKind.deletes : RemovalKind → Bool
  | .binary | .cast | .parenthesized | .block => false
  | .assignment | .fieldDeclaration | .invocation | .literal | .memberAccess | .doWhile
  | .forLoop | .ifElse | .expressionStatement | .diagnosticLog => true

@[simp]
theorem Mode.after_all (count : Nat) : Mode.all.after count = .all :=
  rfl

section Batch

variable (pass : Pass)

/-- A batch selects every candidate it meets. -/
theorem Pass.visit_all_value {α : Type} (node : Node) (selected kept : Survey (Option α)) :
    (pass.visit node selected kept .all).value =
      if pass.isCandidate node then (selected .all).value else (kept .all).value := by
  cases candidate : pass.isCandidate node <;>
    simp [pass.visit_eq_choose, Pass.choose, candidate, Mode.isBatch, Mode.selectsNext]

/-- What a shielded node keeps of its operand, and that any other node goes with it. -/
@[simp]
theorem Pass.keepIf_left? (shielded : Bool) (operand remainder : Expr) :
    keepIf shielded operand (pass.left? (.expr operand) remainder) =
      if shielded = false ∧ Node.Absent pass (.expr operand) then none
      else some (pass.leftOperand operand remainder) := by
  unfold leftOperand left?
  by_cases gone : Node.Absent pass (.expr operand) <;> cases shielded <;> simp [keepIf, gone]

/-- A node is left just if it is neither selected nor without an operand that it needs. -/
theorem Pass.visit_all_value_of_kept {α : Type} {node : Node} {selected kept : Survey (Option α)}
    {remainder : α}
    (ofSelected : pass.isCandidate node = true → (selected .all).value = none)
    (ofKept : (kept .all).value =
      if pass.shields node = false ∧ ∃ operand ∈ node.required, Node.Absent pass (.expr operand)
      then none else some remainder) :
    (pass.visit node selected kept .all).value = pass.left? node remainder := by
  rw [visit_all_value, left?]
  by_cases candidate : pass.isCandidate node = true
  · rw [if_pos candidate, if_pos (.candidate candidate), ofSelected candidate]
  · have absent := (node.absent_iff pass).trans (or_iff_right candidate)
    rw [if_neg candidate, ofKept]
    simp only [absent]

variable {pass}

theorem Pass.ne_block_of_deletes (deletes : pass.kind.deletes = true) : pass.kind ≠ .block := by
  intro block
  rw [block] at deletes
  cases deletes

theorem Pass.sweeps_eq_false (notBlock : pass.kind ≠ .block) (stmt : Stmt) :
    pass.sweeps stmt = false := by
  unfold sweeps
  split
  · next block => exact (notBlock block).elim
  · rfl

/-- A kind that deletes selects no expression that another kind replaces. -/
theorem Pass.not_isCandidate_of_removedBy? (deletes : pass.kind.deletes = true) (expr : Expr)
    {kind : RemovalKind} (removed : expr.label.removedBy? = some kind)
    (replaces : kind.deletes = false) : ¬pass.isCandidate (.expr expr) = true := by
  intro candidate
  have same := (pass.removedBy?_of_isCandidate_expr candidate).symm.trans removed
  rw [Option.some.inj same, replaces] at deletes
  cases deletes

/-- Going on after one operand that may be missing. -/
theorem bind_unless {α β : Type} (gone : Prop) [Decidable gone] (value : α) (next : α → Option β) :
    ((if gone then none else some value).bind next) = if gone then none else next value := by
  split <;> rfl

/-- Two operands that may each be missing. -/
theorem unless_unless {α : Type} (first second : Prop) [Decidable first] [Decidable second]
    (value : Option α) :
    (if first then none else if second then none else value) =
      if first ∨ second then none else value := by
  by_cases isFirst : first <;> simp [isFirst]

mutual

/-- A batch deletes an expression just if it is absent, and else leaves its remainder. -/
theorem Expr.reduce_all_value (deletes : pass.kind.deletes = true) :
    (expr : Expr) →
      (expr.reduce pass .all).value = pass.left? (.expr expr) (expr.remainder pass)
  | .literal value => by
      rw [Expr.reduce]
      refine pass.visit_all_value_of_kept (fun _ => rfl) ?_
      simp [Node.required, Expr.required, remainder]
  | .ident name => by
      rw [Expr.reduce]
      refine pass.visit_all_value_of_kept (fun _ => rfl) ?_
      simp [Node.required, Expr.required, remainder]
  | .unary op operand => by
      have ih := operand.reduce_all_value deletes
      rw [Expr.reduce]
      refine pass.visit_all_value_of_kept (fun _ => rfl) ?_
      simp [ih, Node.required, Expr.required, remainder, bind_unless]
  | .binary op lhs rhs => by
      have left := lhs.reduce_all_value deletes
      have right := rhs.reduce_all_value deletes
      have kept := Pass.not_isCandidate_of_removedBy? deletes (.binary op lhs rhs) rfl rfl
      rw [Expr.reduce]
      refine pass.visit_all_value_of_kept (fun candidate => (kept candidate).elim) ?_
      simp [left, right, Node.required, Expr.required, remainder, bind_unless, unless_unless,
        and_or_left]
  | .assign op target value => by
      have left := target.reduce_all_value deletes
      have right := value.reduce_all_value deletes
      rw [Expr.reduce]
      refine pass.visit_all_value_of_kept (fun _ => rfl) ?_
      simp [left, right, Node.required, Expr.required, remainder, bind_unless, unless_unless,
        and_or_left]
  | .cast ty operand => by
      have ih := operand.reduce_all_value deletes
      have kept := Pass.not_isCandidate_of_removedBy? deletes (.cast ty operand) rfl rfl
      rw [Expr.reduce_cast]
      refine pass.visit_all_value_of_kept (fun candidate => (kept candidate).elim) ?_
      simp [ih, Node.required, Expr.required, remainder, bind_unless]
  | .paren inner => by
      have ih := inner.reduce_all_value deletes
      have kept := Pass.not_isCandidate_of_removedBy? deletes (.paren inner) rfl rfl
      rw [Expr.reduce]
      refine pass.visit_all_value_of_kept (fun candidate => (kept candidate).elim) ?_
      simp [ih, Node.required, Expr.required, remainder, bind_unless]
  | .invoke callee args => by
      have ofCallee := callee.reduce_all_value deletes
      have ofArgs := Expr.reduceList_all_value deletes args
      rw [Expr.reduce]
      refine pass.visit_all_value_of_kept (fun _ => rfl) ?_
      simp [ofCallee, ofArgs, Node.required, Expr.required, remainder, bind_unless]
  | .member target name => by
      have ih := target.reduce_all_value deletes
      rw [Expr.reduce]
      refine pass.visit_all_value_of_kept (fun _ => rfl) ?_
      simp [ih, Node.required, Expr.required, remainder, bind_unless]
  | .conditional cond thenValue elseValue => by
      have ofCond := cond.reduce_all_value deletes
      have ofThen := thenValue.reduce_all_value deletes
      have ofElse := elseValue.reduce_all_value deletes
      rw [Expr.reduce]
      refine pass.visit_all_value_of_kept (fun _ => rfl) ?_
      simp [ofCond, ofThen, ofElse, Node.required, Expr.required, remainder, bind_unless,
        unless_unless, and_or_left, or_assoc]

theorem Expr.reduceList_all_value (deletes : pass.kind.deletes = true) :
    (exprs : List Expr) → (Expr.reduceList pass exprs .all).value = Expr.remainders pass exprs
  | [] => by simp [Expr.reduceList, Expr.remainders]
  | expr :: rest => by
      have head := expr.reduce_all_value deletes
      have tail := Expr.reduceList_all_value deletes rest
      simp [Expr.reduceList, Expr.remainders, head, tail]

end

theorem Expr.reduceOption_all_value (deletes : pass.kind.deletes = true) (expr : Option Expr) :
    (Expr.reduceOption pass expr .all).value = Expr.optionRemainder pass expr := by
  cases expr with
  | none => rfl
  | some value => exact value.reduce_all_value deletes

theorem LocalDecl.reduce_all_value (deletes : pass.kind.deletes = true) (decl : LocalDecl) :
    (decl.reduce pass .all).value = decl.remainder pass := by
  simp [LocalDecl.reduce, LocalDecl.remainder, Expr.reduceOption_all_value deletes]

theorem ForInit.reduce_all_value (deletes : pass.kind.deletes = true) (init : Option ForInit) :
    (ForInit.reduce pass init .all).value = ForInit.remainder pass init := by
  match init with
  | none => rfl
  | some (.declare decl) =>
      simp [ForInit.reduce, ForInit.remainder, decl.reduce_all_value deletes]
  | some (.run exprs) =>
      simp only [ForInit.reduce, ForInit.remainder, Survey.bind_apply, Survey.pure_apply,
        Expr.reduceList_all_value deletes]
      cases Expr.remainders pass exprs <;> rfl

mutual

/-- A batch deletes a statement just if it is absent, and else leaves its remainder. -/
theorem Stmt.reduce_all_value (deletes : pass.kind.deletes = true) :
    (stmt : Stmt) →
      (stmt.reduce pass .all).value = pass.left? (.stmt stmt) (stmt.remainder pass)
  | ⟨trivia, form⟩ => by
      have ofForm := form.reduceParts_all_value deletes (pass.shields (.stmt ⟨[], form⟩))
      have notBlock := Pass.ne_block_of_deletes deletes
      rw [pass.left?_of_normal (.stmt ⟨trivia, form⟩) (.stmt ⟨[], form⟩) rfl, Stmt.reduce]
      refine pass.visit_all_value_of_kept (fun _ => by simp [notBlock]) ?_
      simp only [Survey.bind_apply, Survey.pure_apply, Mode.after_all, ofForm, Stmt.ofForm,
        Stmt.remainder, Node.required]
      exact apply_ite _ _ _ _

theorem StmtForm.reduceParts_all_value (deletes : pass.kind.deletes = true) (shielded : Bool) :
    (form : StmtForm) →
      (form.reduceParts pass shielded .all).value =
        if shielded = false ∧ ∃ operand ∈ form.required, Node.Absent pass (.expr operand) then none
        else some (form.remainder pass)
  | .block body => by
      have ofBody := Stmt.reduceList_all_value deletes body
      simp [StmtForm.reduceParts, StmtForm.remainder, StmtForm.required, ofBody]
  | .declare decl => by
      have ofDecl := decl.reduce_all_value deletes
      simp [StmtForm.reduceParts, StmtForm.remainder, StmtForm.required, ofDecl]
  | .expr value => by
      have ofValue := value.reduce_all_value deletes
      simp [StmtForm.reduceParts, StmtForm.remainder, StmtForm.required, ofValue, bind_unless]
  | .ifElse cond thenBranch none => by
      have ofCond := cond.reduce_all_value deletes
      have ofThen := thenBranch.reduce_all_value deletes
      simp [StmtForm.reduceParts, StmtForm.remainder, StmtForm.required, ofCond, ofThen,
        Pass.leftBody, bind_unless]
  | .ifElse cond thenBranch (some elseBranch) => by
      have ofCond := cond.reduce_all_value deletes
      have ofThen := thenBranch.reduce_all_value deletes
      have ofElse := elseBranch.reduce_all_value deletes
      simp [StmtForm.reduceParts, StmtForm.remainder, StmtForm.required, ofCond, ofThen, ofElse,
        Pass.leftBody, bind_unless]
  | .forLoop init cond update body => by
      have ofInit := ForInit.reduce_all_value deletes init
      have ofCond := Expr.reduceOption_all_value deletes cond
      have ofUpdate := Expr.reduceList_all_value deletes update
      have ofBody := body.reduce_all_value deletes
      simp [StmtForm.reduceParts, StmtForm.remainder, StmtForm.required, ofInit, ofCond, ofUpdate,
        ofBody, Pass.leftBody]
  | .whileLoop cond body => by
      have ofCond := cond.reduce_all_value deletes
      have ofBody := body.reduce_all_value deletes
      simp [StmtForm.reduceParts, StmtForm.remainder, StmtForm.required, ofCond, ofBody,
        Pass.leftBody, bind_unless]
  | .doWhile body cond => by
      have ofCond := cond.reduce_all_value deletes
      have ofBody := body.reduce_all_value deletes
      simp [StmtForm.reduceParts, StmtForm.remainder, StmtForm.required, ofCond, ofBody,
        Pass.leftBody, bind_unless]
  | .ret value => by
      have ofValue := Expr.reduceOption_all_value deletes value
      simp [StmtForm.reduceParts, StmtForm.remainder, StmtForm.required, ofValue]
  | .brk => by simp [StmtForm.reduceParts, StmtForm.remainder, StmtForm.required]
  | .cont => by simp [StmtForm.reduceParts, StmtForm.remainder, StmtForm.required]
  | .empty => by simp [StmtForm.reduceParts, StmtForm.remainder, StmtForm.required]

theorem Stmt.reduceList_all_value (deletes : pass.kind.deletes = true) :
    (stmts : List Stmt) → (Stmt.reduceList pass stmts .all).value = Stmt.remainders pass stmts
  | [] => by simp [Stmt.reduceList, Stmt.remainders]
  | stmt :: rest => by
      have head := stmt.reduce_all_value deletes
      have tail := Stmt.reduceList_all_value deletes rest
      have notSwept := Pass.sweeps_eq_false (Pass.ne_block_of_deletes deletes) stmt
      simp [Stmt.reduceList, Stmt.remainders, notSwept, head, tail]

end

mutual

/-- A batch deletes a declaration just if it is absent, and else leaves its remainder. -/
theorem Member.reduce_all_value (deletes : pass.kind.deletes = true) :
    (member : Member) →
      (member.reduce pass .all).value = pass.left? (.member member) (member.remainder pass)
  | ⟨trivia, form⟩ => by
      have ofForm := form.reduceParts_all_value deletes
      rw [pass.left?_of_normal (.member ⟨trivia, form⟩) (.member ⟨[], form⟩) rfl,
        Member.reduce]
      refine pass.visit_all_value_of_kept (fun _ => rfl) ?_
      simp [ofForm, Member.remainder, Node.required]

theorem MemberForm.reduceParts_all_value (deletes : pass.kind.deletes = true) :
    (form : MemberForm) → (form.reduceParts pass .all).value = form.remainder pass
  | .classDecl modifiers name members => by
      have ofMembers := Member.reduceList_all_value deletes members
      simp [MemberForm.reduceParts, MemberForm.remainder, ofMembers]
  | .field decl => by
      simp [MemberForm.reduceParts, MemberForm.remainder, Expr.reduceOption_all_value deletes]
  | .method decl => by
      simp [MemberForm.reduceParts, MemberForm.remainder, Stmt.reduceList_all_value deletes]

theorem Member.reduceList_all_value (deletes : pass.kind.deletes = true) :
    (members : List Member) →
      (Member.reduceList pass members .all).value = Member.remainders pass members
  | [] => by simp [Member.reduceList, Member.remainders]
  | member :: rest => by
      have head := member.reduce_all_value deletes
      have tail := Member.reduceList_all_value deletes rest
      simp [Member.reduceList, Member.remainders, head, tail]

end

end Batch

namespace Pass

variable (pass : Pass)

/--
A batch of a kind that deletes leaves what is left of a program without its
absent nodes: lists drop them, optional parts are missing, the empty statement
stands for bodies, and a shielded node keeps an absent operand as it was.
-/
theorem apply_all_eq_remainder (deletes : pass.kind.deletes = true) (program : Program) :
    (pass.apply program .all).value = program.remainder pass := by
  have members := Member.reduceList_all_value deletes program.members
  rw [Pass.apply, Program.remainder]
  rw [members]

/-- A counting loop that begins with an assignment and repeats another, and one to its counter. -/
def assignmentsInLoop : Program :=
  ⟨[⟨[], .method ⟨[], "void", "f", [],
    [⟨[], .forLoop (some (.run [.assign .assign (.ident "x") (.literal (.int 1))])) none []
        ⟨[], .expr (.assign .assign (.ident "x") (.literal (.int 2)))⟩⟩,
      ⟨[], .expr (.assign .assign (.ident "__loopvar")
        (.assign .assign (.ident "y") (.literal (.int 1))))⟩]⟩⟩]⟩

/-- The loop loses its start and its body, and the assignment to its counter stays whole. -/
example :
    assignmentsInLoop.remainder ⟨.assignment, .standard⟩ =
      ⟨[⟨[], .method ⟨[], "void", "f", [],
        [⟨[], .forLoop none none [] .nothing⟩,
          ⟨[], .expr (.assign .assign (.ident "__loopvar")
            (.assign .assign (.ident "y") (.literal (.int 1))))⟩]⟩⟩]⟩ := by
  rfl

/-- A batch leaves the loop without its start and its body. -/
theorem apply_all_eq_remainder_loop :
    RemovalKind.assignment.deletes = true ∧
      (apply ⟨.assignment, .standard⟩ assignmentsInLoop .all).value =
        assignmentsInLoop.remainder ⟨.assignment, .standard⟩ :=
  ⟨rfl, apply_all_eq_remainder ⟨.assignment, .standard⟩ rfl assignmentsInLoop⟩

end Pass

end Whittle

import Whittle.Proofs.Changes

/-!
# Empty blocks and probes

A probe selects nothing, so it leaves the normal form of a program, and an index
past the last candidate does the same.  Only the kind that empties blocks acts
without selecting: it frees the body of every method and every block of the empty
blocks in it.  What is freed is decided by the program before; a block that loses
all its statements this way is not empty before and stays, and so does an empty
block that is a branch or the body of a loop.
-/

namespace Whittle

/-! ## Programs that are freed of empty blocks -/

mutual

/-- The statement, with every list of statements inside of it freed of empty blocks. -/
def Stmt.freed : Stmt → Stmt
  | ⟨trivia, form⟩ => ⟨trivia, form.freed⟩

/-- What a statement is without its comments, with its lists freed of empty blocks. -/
def StmtForm.freed : StmtForm → StmtForm
  | .block body => .block (Stmt.freedList body)
  | .ifElse cond thenBranch none => .ifElse cond thenBranch.freed none
  | .ifElse cond thenBranch (some elseBranch) =>
      .ifElse cond thenBranch.freed (some elseBranch.freed)
  | .forLoop init cond update body => .forLoop init cond update body.freed
  | .whileLoop cond body => .whileLoop cond body.freed
  | .doWhile body cond => .doWhile body.freed cond
  | .declare decl => .declare decl
  | .expr value => .expr value
  | .ret value => .ret value
  | .brk => .brk
  | .cont => .cont
  | .empty => .empty

/-- The statements of a list that are no empty blocks, each with its own lists freed. -/
def Stmt.freedList : List Stmt → List Stmt
  | [] => []
  | stmt :: rest =>
      if stmt.form.isEmptyBlock then Stmt.freedList rest else stmt.freed :: Stmt.freedList rest

end

mutual

/-- The declaration, with every list of statements inside of it freed of empty blocks. -/
def Member.freed : Member → Member
  | ⟨trivia, form⟩ => ⟨trivia, form.freed⟩

def MemberForm.freed : MemberForm → MemberForm
  | .classDecl modifiers name members => .classDecl modifiers name (Member.freedList members)
  | .field decl => .field decl
  | .method decl => .method { decl with body := Stmt.freedList decl.body }

def Member.freedList : List Member → List Member
  | [] => []
  | member :: rest => member.freed :: Member.freedList rest

end

/-- The program with the bodies of its methods and all blocks in them freed of empty blocks. -/
def Program.freed (program : Program) : Program :=
  ⟨Member.freedList program.members⟩

/-- The list of statements that a method or a block is made of. -/
def Node.statements : Node → List Stmt
  | .member ⟨_, .method decl⟩ => decl.body
  | .stmt ⟨_, .block body⟩ => body
  | _ => []

/-! ## Nothing is swept out of expressions -/

namespace Pass

variable (pass : Pass)

/-- Only items of lists are swept. -/
theorem sweepsAt_of_ne_entry {slot : Slot} (other : slot ≠ .entry) (tree : Skeleton) :
    pass.sweepsAt slot tree = false := by
  unfold sweepsAt
  split
  · exact (other rfl).elim
  · rfl

end Pass

namespace Skeleton

/-- Whether all parts of a list are expressions. -/
def AreExprs (parts : List (Slot × Skeleton)) : Prop :=
  ∀ part ∈ parts, ∃ expr : Expr, part.2 = expr.skeleton

theorem areExprs_parts (expr : Expr) : AreExprs expr.skeleton.parts := by
  intro part member
  rcases expr.includes_of_mem_parts member with ⟨operand, isOperand, _⟩
  exact ⟨operand, isOperand⟩

@[simp]
theorem areExprs_inSlot (slot : Slot) (exprs : List Expr) : AreExprs (Expr.inSlot slot exprs) := by
  intro part member
  rcases Expr.exists_of_mem_inSlot member with ⟨expr, _, rfl⟩
  exact ⟨expr, rfl⟩

@[simp]
theorem areExprs_optionInSlot (slot : Slot) (expr : Option Expr) :
    AreExprs (Expr.optionInSlot slot expr) := by
  intro part member
  rcases Expr.exists_of_mem_optionInSlot member with ⟨value, _, rfl⟩
  exact ⟨value, rfl⟩

@[simp]
theorem areExprs_inSlots (init : Option ForInit) : AreExprs (ForInit.inSlots init) := by
  intro part member
  rcases ForInit.includes_of_mem_inSlots member with ⟨expr, isExpr, _⟩
  exact ⟨expr, isExpr⟩

variable (pass : Pass)

theorem any_sweepsAt_of_areExprs {parts : List (Slot × Skeleton)} (areExprs : AreExprs parts) :
    (parts.any fun part => pass.sweepsAt part.1 part.2) = false := by
  rw [List.any_eq_false]
  intro part member
  rcases areExprs part member with ⟨expr, isExpr⟩
  simp [isExpr]

theorem sweptParts_of_forall {parts : List (Slot × Skeleton)}
    (kept : (parts.any fun part => pass.sweepsAt part.1 part.2) = false)
    (same : ∀ part ∈ parts, part.2.swept pass = part.2) : sweptParts pass parts = parts := by
  induction parts with
  | nil => rfl
  | cons part rest ih =>
      rcases part with ⟨slot, tree⟩
      rw [List.any_cons, Bool.or_eq_false_iff] at kept
      rcases List.forall_mem_cons.mp same with ⟨ofTree, ofOthers⟩
      simp only at kept ofTree
      simp [sweptParts, kept.1, ofTree, ih kept.2 ofOthers]

@[simp]
theorem swept_skeleton (expr : Expr) : expr.skeleton.swept pass = expr.skeleton := by
  induction isTree : expr.skeleton using Skeleton.induct generalizing expr with
  | node label parts ih =>
      have areExprs : AreExprs parts := by
        have ofExpr := areExprs_parts expr
        rwa [isTree] at ofExpr
      rw [swept, sweptParts_of_forall pass (any_sweepsAt_of_areExprs pass areExprs)]
      intro part member
      rcases areExprs part member with ⟨operand, isOperand⟩
      exact ih part member operand isOperand.symm

theorem sweptParts_of_areExprs {parts : List (Slot × Skeleton)} (areExprs : AreExprs parts) :
    sweptParts pass parts = parts := by
  refine sweptParts_of_forall pass (any_sweepsAt_of_areExprs pass areExprs) fun part member => ?_
  rcases areExprs part member with ⟨expr, isExpr⟩
  rw [isExpr, swept_skeleton]

end Skeleton

/-! ## The skeleton of a program that is freed -/

section Freed

open Skeleton

variable {pass : Pass}

theorem StmtForm.label_freed (form : StmtForm) : form.freed.label = form.label := by
  cases form with
  | ifElse cond thenBranch elseBranch => cases elseBranch <;> rfl
  | _ => rfl

theorem MemberForm.label_freed (form : MemberForm) : form.freed.label = form.label := by
  cases form <;> rfl

theorem Pass.sweepsAt_entry_of_block (block : pass.kind = .block) (stmt : Stmt) :
    pass.sweepsAt .entry stmt.skeleton = stmt.form.isEmptyBlock := by
  simp [pass.sweepsAt_stmt, Pass.sweeps, block]

mutual

/-- The kind that empties blocks sweeps the skeleton of a statement as the statement is freed. -/
theorem Stmt.skeleton_freed (block : pass.kind = .block) :
    (stmt : Stmt) → stmt.freed.skeleton = stmt.skeleton.swept pass
  | ⟨trivia, form⟩ => by
      rw [Stmt.freed, Stmt.skeleton, Stmt.skeleton, swept, form.label_freed,
        form.inSlots_freed block]

theorem StmtForm.inSlots_freed (block : pass.kind = .block) :
    (form : StmtForm) → form.freed.inSlots = sweptParts pass form.inSlots
  | .block body => by
      rw [StmtForm.freed, StmtForm.inSlots, StmtForm.inSlots, Stmt.entries_freedList block body]
  | .ifElse cond thenBranch none => by
      have ofThen := thenBranch.skeleton_freed block
      simp [StmtForm.freed, StmtForm.inSlots, sweptParts, ofThen, pass.sweepsAt_of_ne_entry]
  | .ifElse cond thenBranch (some elseBranch) => by
      have ofThen := thenBranch.skeleton_freed block
      have ofElse := elseBranch.skeleton_freed block
      simp [StmtForm.freed, StmtForm.inSlots, sweptParts, ofThen, ofElse,
        pass.sweepsAt_of_ne_entry]
  | .forLoop init cond update body => by
      have ofBody := body.skeleton_freed block
      simp [StmtForm.freed, StmtForm.inSlots, sweptParts, ofBody, sweptParts_of_areExprs,
        pass.sweepsAt_of_ne_entry]
  | .whileLoop cond body => by
      have ofBody := body.skeleton_freed block
      simp [StmtForm.freed, StmtForm.inSlots, sweptParts, ofBody, pass.sweepsAt_of_ne_entry]
  | .doWhile body cond => by
      have ofBody := body.skeleton_freed block
      simp [StmtForm.freed, StmtForm.inSlots, sweptParts, ofBody, pass.sweepsAt_of_ne_entry]
  | .declare decl => by simp [StmtForm.freed, StmtForm.inSlots, sweptParts_of_areExprs]
  | .expr value => by
      simp [StmtForm.freed, StmtForm.inSlots, sweptParts, pass.sweepsAt_of_ne_entry]
  | .ret value => by simp [StmtForm.freed, StmtForm.inSlots, sweptParts_of_areExprs]
  | .brk => rfl
  | .cont => rfl
  | .empty => rfl

theorem Stmt.entries_freedList (block : pass.kind = .block) :
    (stmts : List Stmt) → Stmt.entries (Stmt.freedList stmts) = sweptParts pass (Stmt.entries stmts)
  | [] => rfl
  | stmt :: rest => by
      have head := stmt.skeleton_freed block
      have tail := Stmt.entries_freedList block rest
      rw [Stmt.freedList, Stmt.entries, sweptParts, Pass.sweepsAt_entry_of_block block]
      split
      · exact tail
      · rw [Stmt.entries, head, tail]

end

mutual

theorem Member.skeleton_freed (block : pass.kind = .block) :
    (member : Member) → member.freed.skeleton = member.skeleton.swept pass
  | ⟨trivia, form⟩ => by
      rw [Member.freed, Member.skeleton, Member.skeleton, swept, form.label_freed,
        form.inSlots_freed block]

theorem MemberForm.inSlots_freed (block : pass.kind = .block) :
    (form : MemberForm) → form.freed.inSlots = sweptParts pass form.inSlots
  | .classDecl modifiers name members => by
      rw [MemberForm.freed, MemberForm.inSlots, MemberForm.inSlots,
        Member.entries_freedList block members]
  | .field decl => by simp [MemberForm.freed, MemberForm.inSlots, sweptParts_of_areExprs]
  | .method decl => by
      rw [MemberForm.freed, MemberForm.inSlots, MemberForm.inSlots,
        Stmt.entries_freedList block decl.body]

theorem Member.entries_freedList (block : pass.kind = .block) :
    (members : List Member) →
      Member.entries (Member.freedList members) = sweptParts pass (Member.entries members)
  | [] => rfl
  | member :: rest => by
      have head := member.skeleton_freed block
      have tail := Member.entries_freedList block rest
      simp [Member.freedList, Member.entries, sweptParts, head, tail, pass.sweepsAt_member]

end

theorem Program.skeleton_freed (block : pass.kind = .block) (program : Program) :
    program.freed.skeleton = program.skeleton.swept pass := by
  rw [Program.freed, Program.skeleton, Program.skeleton, swept,
    Member.entries_freedList block program.members]

/-! ## What is swept -/

theorem Stmt.any_sweepsAt_entries (block : pass.kind = .block) (stmts : List Stmt) :
    ((Stmt.entries stmts).any fun part => pass.sweepsAt part.1 part.2) =
      stmts.any fun stmt => stmt.form.isEmptyBlock := by
  induction stmts with
  | nil => rfl
  | cons stmt rest ih => simp [Stmt.entries, ih, Pass.sweepsAt_entry_of_block block]

theorem Member.any_sweepsAt_entries (members : List Member) :
    ((Member.entries members).any fun part => pass.sweepsAt part.1 part.2) = false := by
  induction members with
  | nil => rfl
  | cons member rest ih => simp [Member.entries, ih, pass.sweepsAt_member]

/-- Just the empty blocks in the list that a node is made of are swept out of its parts. -/
theorem Node.sweepsPart_skeleton (block : pass.kind = .block) (node : Node) :
    sweepsPart pass node.skeleton = node.statements.any fun stmt => stmt.form.isEmptyBlock := by
  cases node with
  | expr value => exact any_sweepsAt_of_areExprs pass (areExprs_parts value)
  | stmt value =>
      rcases value with ⟨trivia, form⟩
      cases form with
      | block body => exact Stmt.any_sweepsAt_entries block body
      | ifElse cond thenBranch elseBranch =>
          cases elseBranch <;>
            simp [sweepsPart, Node.skeleton, Stmt.skeleton, StmtForm.inSlots, Node.statements,
              pass.sweepsAt_of_ne_entry]
      | _ =>
          simp [sweepsPart, Node.skeleton, Stmt.skeleton, StmtForm.inSlots, Node.statements,
            pass.sweepsAt_of_ne_entry, any_sweepsAt_of_areExprs]
  | member value =>
      rcases value with ⟨trivia, form⟩
      cases form with
      | classDecl modifiers name members => exact Member.any_sweepsAt_entries members
      | field decl => exact any_sweepsAt_of_areExprs pass (areExprs_optionInSlot .initial decl.init)
      | method decl => exact Stmt.any_sweepsAt_entries block decl.body

end Freed

/-! ## Probes -/

namespace Pass

variable (pass : Pass) (program : Program)

theorem apply_probe_changed :
    (pass.apply program .probe).changed =
      program.skeleton.selfAndDescendants.any (Skeleton.sweepsPart pass) := by
  rw [← Skeleton.reduce_probe_changed, pass.apply_skeleton]

/-- An index that is no candidate's does what a probe does. -/
theorem apply_nth_of_le {index : Nat}
    (past : pass.kind = .diagnosticLog ∨ (pass.apply program .probe).candidates ≤ index) :
    pass.apply program (.nth index) = pass.apply program .probe := by
  refine apply_eq_of_reduce ?_
  by_cases together : pass.kind = .diagnosticLog
  · have batchOnly : pass.kind.isBatchOnly = true := by rw [together]; rfl
    rw [Skeleton.reduce_of_isBatchOnly pass batchOnly rfl,
      Skeleton.reduce_of_isBatchOnly pass batchOnly rfl]
  · have beyond : program.skeleton.candidatesIn pass ≤ index := by
      rw [← pass.probe_eq_candidatesIn together]
      exact past.resolve_left together
    exact Skeleton.reduce_nth_of_le pass (pass.isBatchOnly_eq_false together) _ index beyond

variable {pass}

/-- A probe of a kind that sweeps nothing changes nothing. -/
theorem apply_probe_of_ne_block (notBlock : pass.kind ≠ .block) :
    (pass.apply program .probe).changed = false ∧
      (pass.apply program .probe).value = program.normal := by
  have unchanged : (pass.apply program .probe).changed = false := by
    rw [apply_probe_changed, List.any_eq_false]
    intro tree _
    simp [Skeleton.sweepsPart, Skeleton.sweepsAt_eq_false pass notBlock]
  exact ⟨unchanged, apply_eq_normal_of_unchanged unchanged⟩

/-- A probe of the kind that empties blocks frees the program of those that are empty. -/
theorem apply_probe_value_of_block (block : pass.kind = .block) :
    (pass.apply program .probe).value = program.freed.normal := by
  have left := Skeleton.reduce_probe_value pass program.skeleton
  rw [pass.apply_skeleton, ← Program.skeleton_freed block, Option.some.injEq] at left
  exact apply_eq_normal_of_skeleton left

theorem apply_probe_changed_of_block (block : pass.kind = .block) :
    (pass.apply program .probe).changed = true ↔
      ∃ node ∈ program.nodes, ∃ stmt ∈ node.statements, stmt.form.isEmptyBlock = true := by
  have root : Skeleton.sweepsPart pass program.skeleton = false :=
    Member.any_sweepsAt_entries program.members
  rw [apply_probe_changed, Skeleton.selfAndDescendants, List.any_cons, root, Bool.false_or,
    ← program.nodes_map_skeleton, List.any_map, List.any_eq_true]
  simp only [Function.comp_apply, Node.sweepsPart_skeleton block, List.any_eq_true]

/--
A probe changes nothing, and an index past the last candidate is a probe.  What
is left is the normal form of the program.  Only the kind that empties blocks
frees the lists of statements of the blocks that are empty already, and it
records a change just if there is one.
-/
theorem probe_changes_nothing (pass : Pass) (program : Program) :
    (∀ index, pass.kind = .diagnosticLog ∨ (pass.apply program .probe).candidates ≤ index →
      pass.apply program (.nth index) = pass.apply program .probe) ∧
    (pass.kind ≠ .block →
      (pass.apply program .probe).changed = false ∧
        (pass.apply program .probe).value = program.normal) ∧
    (pass.kind = .block →
      (pass.apply program .probe).value = program.freed.normal ∧
        ((pass.apply program .probe).changed = true ↔
          ∃ node ∈ program.nodes, ∃ stmt ∈ node.statements, stmt.form.isEmptyBlock = true)) := by
  refine ⟨?_, ?_, ?_⟩
  · intro index past
    exact apply_nth_of_le pass program past
  · intro notBlock
    exact apply_probe_of_ne_block program notBlock
  · intro block
    exact ⟨apply_probe_value_of_block program block, apply_probe_changed_of_block program block⟩

/-- An empty block, a block of nothing but an empty block, and an empty block that is a branch. -/
def nestedBlocks : Program :=
  ⟨[⟨[], .method ⟨[], "void", "f", [],
    [⟨[.line "gone"], .block []⟩, ⟨[], .block [⟨[], .block []⟩]⟩,
      ⟨[], .ifElse (.ident "x") ⟨[], .block []⟩ none⟩]⟩⟩]⟩

/-- The block that loses its only statement stays, and so does the branch. -/
example :
    nestedBlocks.freed =
      ⟨[⟨[], .method ⟨[], "void", "f", [],
        [⟨[], .block []⟩, ⟨[], .ifElse (.ident "x") ⟨[], .block []⟩ none⟩]⟩⟩]⟩ := by
  rfl

/-- There is one block to select, so the second one is not selected. -/
theorem probe_changes_nothing_nested :
    ((apply ⟨.block, .standard⟩ nestedBlocks .probe).candidates ≤ 1 ∧
      apply ⟨.block, .standard⟩ nestedBlocks (.nth 1) =
        apply ⟨.block, .standard⟩ nestedBlocks .probe) ∧
    (RemovalKind.ifElse ≠ .block ∧
      (apply ⟨.ifElse, .standard⟩ nestedBlocks .probe).changed = false ∧
        (apply ⟨.ifElse, .standard⟩ nestedBlocks .probe).value = nestedBlocks.normal) ∧
    (apply ⟨.block, .standard⟩ nestedBlocks .probe).value = nestedBlocks.freed.normal ∧
      ((apply ⟨.block, .standard⟩ nestedBlocks .probe).changed = true ↔
        ∃ node ∈ nestedBlocks.nodes, ∃ stmt ∈ node.statements, stmt.form.isEmptyBlock = true) := by
  have single : (apply ⟨.block, .standard⟩ nestedBlocks .probe).candidates ≤ 1 := by decide
  refine ⟨⟨single, ?_⟩, ⟨by decide, ?_⟩, ?_⟩
  · exact (probe_changes_nothing ⟨.block, .standard⟩ nestedBlocks).1 1 (.inr single)
  · exact (probe_changes_nothing ⟨.ifElse, .standard⟩ nestedBlocks).2.1 (by decide)
  · exact (probe_changes_nothing ⟨.block, .standard⟩ nestedBlocks).2.2 rfl

end Pass

end Whittle

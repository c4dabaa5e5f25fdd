import Whittle.Program.Outline

/-!
# Walks follow outlines

A walk is written out for every form of statements and expressions, and it can
be ended in the middle of each.  It does what the walk through the outline does,
which knows no forms (`Walk.Follows`).  There is one lemma for each way in which
walks are put together, and from these one case for every form.
-/

namespace Whittle

variable {σ β : Type} {visit : Visitor σ β}

namespace Outline

/-- What comes later is left out once the walk has been ended. -/
theorem walkList_append (visit : Visitor σ β) (outlines others : List Outline) (state : σ) :
    walkList visit (outlines ++ others) state =
      match walkList visit outlines state with
      | (some result, next) => (some result, next)
      | (none, next) => walkList visit others next := by
  induction outlines generalizing state with
  | nil => rfl
  | cons outline rest ih =>
      rw [List.cons_append, walkList, walkList]
      rcases walk visit outline state with ⟨_ | result, next⟩
      · exact ih next
      · rfl

end Outline

namespace Walk

/-- The walk does what the walk through some outlines, one after the other, does. -/
def Follows (visit : Visitor σ β) (walk : Walk σ β Unit) (outlines : List Outline) : Prop :=
  ∀ state, walk state =
    match Outline.walkList visit outlines state with
    | (none, next) => (.ok (), next)
    | (some result, next) => (.error result, next)

variable {walk other : Walk σ β Unit} {outlines others : List Outline}

theorem follows_nil : Follows visit (pure ()) [] :=
  fun _ => rfl

/-- What comes second is left out once the first walk has been ended. -/
theorem Follows.append (first : Follows visit walk outlines)
    (second : Follows visit other others) :
    Follows visit (do walk; other) (outlines ++ others) := by
  intro state
  rw [bind_apply, first state, Outline.walkList_append]
  rcases Outline.walkList visit outlines state with ⟨_ | result, next⟩
  · exact second next
  · rfl

/-- A node is visited, and then what is below it, unless the visitor keeps the walk from it. -/
theorem Follows.node (head : Node) (below : Follows visit walk outlines) :
    Follows visit (do
      unless ← enter visit head do return
      walk) [.node head outlines] := by
  intro state
  rw [bind_apply, enter, Outline.walkList, Outline.walk]
  rcases visit head state with ⟨verdict, next⟩
  cases verdict with
  | advance =>
      refine (below next).trans ?_
      dsimp only
      rcases Outline.walkList visit outlines next with ⟨_ | result, last⟩ <;> rfl
  | skip => rfl
  | stop result => rfl

end Walk

open Walk (Follows follows_nil)

/-! ## Expressions -/

mutual

theorem Expr.walk_follows (visit : Visitor σ β) :
    (expr : Expr) → Follows visit (expr.walk visit) [expr.outline]
  | .literal value => by
      rw [Expr.walk, Expr.outline]
      exact follows_nil.node _
  | .ident name => by
      rw [Expr.walk, Expr.outline]
      exact follows_nil.node _
  | .unary op operand => by
      rw [Expr.walk, Expr.outline]
      exact (operand.walk_follows visit).node _
  | .binary op lhs rhs => by
      rw [Expr.walk, Expr.outline]
      exact ((lhs.walk_follows visit).append (rhs.walk_follows visit)).node _
  | .assign op target value => by
      rw [Expr.walk, Expr.outline]
      exact ((target.walk_follows visit).append (value.walk_follows visit)).node _
  | .cast ty operand => by
      rw [Expr.walk, Expr.outline]
      exact (operand.walk_follows visit).node _
  | .paren inner => by
      rw [Expr.walk, Expr.outline]
      exact (inner.walk_follows visit).node _
  | .invoke callee args => by
      rw [Expr.walk, Expr.outline]
      exact ((callee.walk_follows visit).append (Expr.walkAll_follows visit args)).node _
  | .member target name => by
      rw [Expr.walk, Expr.outline]
      exact (target.walk_follows visit).node _
  | .conditional cond thenValue elseValue => by
      rw [Expr.walk, Expr.outline]
      exact ((cond.walk_follows visit).append
        ((thenValue.walk_follows visit).append (elseValue.walk_follows visit))).node _

theorem Expr.walkAll_follows (visit : Visitor σ β) :
    (exprs : List Expr) → Follows visit (Expr.walkAll visit exprs) (Expr.outlines exprs)
  | [] => follows_nil
  | expr :: rest => by
      rw [Expr.walkAll, Expr.outlines]
      exact (expr.walk_follows visit).append (Expr.walkAll_follows visit rest)

end

theorem Expr.walkOption_follows (visit : Visitor σ β) (expr : Option Expr) :
    Follows visit (Expr.walkOption visit expr) (Expr.optionOutline expr) := by
  cases expr with
  | none => exact follows_nil
  | some expr => exact expr.walk_follows visit

/-! ## Statements -/

theorem ForInit.walkOption_follows (visit : Visitor σ β) (init : Option ForInit) :
    Follows visit (ForInit.walkOption visit init) (ForInit.outlines init) := by
  cases init with
  | none => exact follows_nil
  | some init =>
      cases init with
      | declare decl => exact Expr.walkOption_follows visit decl.init
      | run exprs => exact Expr.walkAll_follows visit exprs

mutual

theorem Stmt.walk_follows (visit : Visitor σ β) :
    (stmt : Stmt) → Follows visit (stmt.walk visit) [stmt.outline]
  | ⟨trivia, form⟩ => by
      rw [Stmt.walk, Stmt.outline]
      exact (form.walk_follows visit).node _

theorem StmtForm.walk_follows (visit : Visitor σ β) :
    (form : StmtForm) → Follows visit (form.walk visit) form.children
  | .block body => by
      rw [StmtForm.walk, StmtForm.children]
      exact Stmt.walkAll_follows visit body
  | .declare decl => by
      rw [StmtForm.walk, StmtForm.children]
      exact Expr.walkOption_follows visit decl.init
  | .expr value => by
      rw [StmtForm.walk, StmtForm.children]
      exact value.walk_follows visit
  | .ifElse cond thenBranch none => by
      rw [StmtForm.walk, StmtForm.children]
      exact (cond.walk_follows visit).append
        ((thenBranch.walk_follows visit).append follows_nil)
  | .ifElse cond thenBranch (some elseBranch) => by
      rw [StmtForm.walk, StmtForm.children]
      exact (cond.walk_follows visit).append
        ((thenBranch.walk_follows visit).append (elseBranch.walk_follows visit))
  | .forLoop init cond update body => by
      rw [StmtForm.walk, StmtForm.children, List.append_assoc, List.append_assoc]
      exact (ForInit.walkOption_follows visit init).append
        ((Expr.walkOption_follows visit cond).append
          ((Expr.walkAll_follows visit update).append (body.walk_follows visit)))
  | .whileLoop cond body => by
      rw [StmtForm.walk, StmtForm.children]
      exact (cond.walk_follows visit).append (body.walk_follows visit)
  | .doWhile body cond => by
      rw [StmtForm.walk, StmtForm.children]
      exact (body.walk_follows visit).append (cond.walk_follows visit)
  | .ret value => by
      rw [StmtForm.walk, StmtForm.children]
      exact Expr.walkOption_follows visit value
  | .brk => follows_nil
  | .cont => follows_nil
  | .empty => follows_nil

theorem Stmt.walkAll_follows (visit : Visitor σ β) :
    (stmts : List Stmt) → Follows visit (Stmt.walkAll visit stmts) (Stmt.outlines stmts)
  | [] => follows_nil
  | stmt :: rest => by
      rw [Stmt.walkAll, Stmt.outlines]
      exact (stmt.walk_follows visit).append (Stmt.walkAll_follows visit rest)

end

/-! ## Members -/

mutual

theorem Member.walk_follows (visit : Visitor σ β) :
    (member : Member) → Follows visit (member.walk visit) [member.outline]
  | ⟨trivia, form⟩ => by
      rw [Member.walk, Member.outline]
      exact (form.walk_follows visit).node _

theorem MemberForm.walk_follows (visit : Visitor σ β) :
    (form : MemberForm) → Follows visit (form.walk visit) form.children
  | .classDecl modifiers name members => by
      rw [MemberForm.walk, MemberForm.children]
      exact Member.walkAll_follows visit members
  | .field decl => by
      rw [MemberForm.walk, MemberForm.children]
      exact Expr.walkOption_follows visit decl.init
  | .method decl => by
      rw [MemberForm.walk, MemberForm.children]
      exact Stmt.walkAll_follows visit decl.body

theorem Member.walkAll_follows (visit : Visitor σ β) :
    (members : List Member) → Follows visit (Member.walkAll visit members) (Member.outlines members)
  | [] => follows_nil
  | member :: rest => by
      rw [Member.walkAll, Member.outlines]
      exact (member.walk_follows visit).append (Member.walkAll_follows visit rest)

end

/-- A walk through a program is the walk through its outlines. -/
theorem Program.walk_eq (program : Program) (visit : Visitor σ β) (state : σ) :
    program.walk visit state = Outline.walkList visit program.outlines state := by
  rw [Program.walk, Member.walkAll_follows visit program.members state, Program.outlines]
  rcases Outline.walkList visit (Member.outlines program.members) state with ⟨_ | result, next⟩ <;>
    rfl

end Whittle

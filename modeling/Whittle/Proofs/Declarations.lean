import Whittle.Proofs.SkeletonAgreement

/-!
# Declarations

What a program declares is the tree of its classes, methods and fields with all
that is said about them but for values and bodies.  Whatever a pass deletes in
an initial value or in a body, the gap is closed before it reaches the
declaration; so the declarations stay as they are, with one exception: fields
are deleted where the kind is about them.

That kind is about nothing else.  Once it has been through a program, the
members are those of before but for fields that mention no marker, at any depth,
and what is left is as it was up to its normal form.
-/

namespace Whittle

/-! ## Signatures -/

/-- A declaration without its values and bodies. -/
inductive Signature where
  | classDecl (modifiers : List String) (name : String) (members : List Signature)
  | field (modifiers : List String) (ty name : String)
  | method (modifiers : List String) (ret name : String) (params : List Param)

mutual

/-- What is left of a declaration without the fields in it; nothing of a field. -/
@[simp]
def Signature.withoutFields : Signature → Option Signature
  | .classDecl modifiers name members => some (.classDecl modifiers name (fieldless members))
  | .field .. => none
  | .method modifiers ret name params => some (.method modifiers ret name params)

/-- Declarations without the fields among them and in them. -/
@[simp]
def Signature.fieldless : List Signature → List Signature
  | [] => []
  | signature :: rest => signature.withoutFields.toList ++ fieldless rest

end

mutual

/-- What a member declares. -/
@[simp]
def Member.signature : Member → Signature
  | ⟨_, form⟩ => form.signature

@[simp]
def MemberForm.signature : MemberForm → Signature
  | .classDecl modifiers name members => .classDecl modifiers name (Member.signatures members)
  | .field decl => .field decl.modifiers decl.ty decl.name
  | .method decl => .method decl.modifiers decl.ret decl.name decl.params

@[simp]
def Member.signatures : List Member → List Signature
  | [] => []
  | member :: rest => member.signature :: Member.signatures rest

end

/-! ## Declarations without some of their fields -/

/--
Members with some fields less, in which no marker is mentioned.  What stays is
in normal form: a field with the value that it had, a method with the
statements that it had.
-/
inductive Thinned (options : ReduceOptions) : List Member → List Member → Prop
  | nil : Thinned options [] []
  /-- A field that mentions no marker is gone. -/
  | gone {trivia : List Comment} {decl : FieldDecl} {rest rest' : List Member}
      (unmarked : options.mentionsMarker (.member ⟨trivia, .field decl⟩) = false)
      (others : Thinned options rest rest') :
      Thinned options (⟨trivia, .field decl⟩ :: rest) rest'
  | field {trivia : List Comment} {decl : FieldDecl} {rest rest' : List Member}
      (others : Thinned options rest rest') :
      Thinned options (⟨trivia, .field decl⟩ :: rest) (⟨[], .field decl⟩ :: rest')
  | method {trivia : List Comment} {decl : MethodDecl} {rest rest' : List Member}
      (others : Thinned options rest rest') :
      Thinned options (⟨trivia, .method decl⟩ :: rest)
        (⟨[], .method { decl with body := Stmt.normalList decl.body }⟩ :: rest')
  | classDecl {trivia : List Comment} {modifiers : List String} {name : String}
      {members members' rest rest' : List Member}
      (inner : Thinned options members members') (others : Thinned options rest rest') :
      Thinned options (⟨trivia, .classDecl modifiers name members⟩ :: rest)
        (⟨[], .classDecl modifiers name members'⟩ :: rest')

theorem Thinned.fieldless_signatures {options : ReduceOptions} {members members' : List Member}
    (thinned : Thinned options members members') :
    Signature.fieldless (Member.signatures members') =
      Signature.fieldless (Member.signatures members) := by
  induction thinned with
  | nil => rfl
  | gone unmarked others ih => simp [ih]
  | field others ih => simp [ih]
  | method others ih => simp [ih]
  | classDecl inner others ihInner ih => simp [ihInner, ih]

/-! ## Code that a pass on fields leaves -/

namespace Pass

variable {pass : Pass} {α : Type} (selected kept : Survey (Option α))

theorem visit_of_not_isCandidate {node : Node} (left : pass.isCandidate node = false) :
    pass.visit node selected kept = kept := by
  rw [pass.visit_eq_choose, left]
  rfl

theorem visit_expr_of_fieldDeclaration (fields : pass.kind = .fieldDeclaration) (expr : Expr) :
    pass.visit (.expr expr) selected kept = kept :=
  visit_of_not_isCandidate selected kept (by simp [isCandidate, matchesNode, matchesExpr, fields])

theorem visit_stmt_of_fieldDeclaration (fields : pass.kind = .fieldDeclaration) (stmt : Stmt) :
    pass.visit (.stmt stmt) selected kept = kept :=
  visit_of_not_isCandidate selected kept (by simp [isCandidate, matchesNode, matchesStmt, fields])

end Pass

@[simp]
theorem keepIf_some (shielded : Bool) (before folded : Expr) :
    keepIf shielded before (some folded) = some folded := by
  cases shielded <;> rfl

section Code

variable {pass : Pass}

mutual

/-- A pass on fields leaves expressions as they are. -/
theorem Expr.reduce_of_fieldDeclaration (fields : pass.kind = .fieldDeclaration) :
    (expr : Expr) → expr.reduce pass = pure (some expr)
  | .literal value | .ident name => by
      rw [Expr.reduce, pass.visit_expr_of_fieldDeclaration _ _ fields]
  | .unary op operand | .paren operand | .member operand name => by
      have ofOperand := operand.reduce_of_fieldDeclaration fields
      simp [Expr.reduce, pass.visit_expr_of_fieldDeclaration _ _ fields, ofOperand]
  | .cast ty operand => by
      have ofOperand := operand.reduce_of_fieldDeclaration fields
      simp [Expr.reduce_cast, pass.visit_expr_of_fieldDeclaration _ _ fields, ofOperand]
  | .binary op left right | .assign op left right => by
      have ofLeft := left.reduce_of_fieldDeclaration fields
      have ofRight := right.reduce_of_fieldDeclaration fields
      simp [Expr.reduce, pass.visit_expr_of_fieldDeclaration _ _ fields, ofLeft, ofRight]
  | .invoke callee args => by
      have ofCallee := callee.reduce_of_fieldDeclaration fields
      have ofArgs := Expr.reduceList_of_fieldDeclaration fields args
      simp [Expr.reduce, pass.visit_expr_of_fieldDeclaration _ _ fields, ofCallee, ofArgs]
  | .conditional cond thenValue elseValue => by
      have ofCond := cond.reduce_of_fieldDeclaration fields
      have ofThen := thenValue.reduce_of_fieldDeclaration fields
      have ofElse := elseValue.reduce_of_fieldDeclaration fields
      simp [Expr.reduce, pass.visit_expr_of_fieldDeclaration _ _ fields, ofCond, ofThen, ofElse]

theorem Expr.reduceList_of_fieldDeclaration (fields : pass.kind = .fieldDeclaration) :
    (exprs : List Expr) → Expr.reduceList pass exprs = pure exprs
  | [] => by rw [Expr.reduceList]
  | expr :: rest => by
      have head := expr.reduce_of_fieldDeclaration fields
      have tail := Expr.reduceList_of_fieldDeclaration fields rest
      simp [Expr.reduceList, head, tail]

end

variable (fields : pass.kind = .fieldDeclaration)
include fields

theorem Expr.reduceOption_of_fieldDeclaration (expr : Option Expr) :
    Expr.reduceOption pass expr = pure expr := by
  cases expr with
  | none => rfl
  | some value => exact value.reduce_of_fieldDeclaration fields

theorem LocalDecl.reduce_of_fieldDeclaration (decl : LocalDecl) :
    decl.reduce pass = pure decl := by
  simp [LocalDecl.reduce, Expr.reduceOption_of_fieldDeclaration fields]

theorem ForInit.reduce_of_fieldDeclaration (init : Option ForInit) :
    ForInit.reduce pass init = pure (ForInit.normal init) := by
  rcases init with _ | ⟨decl⟩ | ⟨exprs⟩
  · rfl
  · simp [ForInit.reduce, ForInit.normal, decl.reduce_of_fieldDeclaration fields]
  · cases exprs <;>
      simp [ForInit.reduce, ForInit.normal, Expr.reduceList_of_fieldDeclaration fields]

omit fields

mutual

/-- A pass on fields only brings statements into normal form. -/
theorem Stmt.reduce_of_fieldDeclaration (fields : pass.kind = .fieldDeclaration) :
    (stmt : Stmt) → stmt.reduce pass = pure (some stmt.normal)
  | ⟨trivia, form⟩ => by
      have ofForm := form.reduceParts_of_fieldDeclaration fields (pass.shields (.stmt ⟨[], form⟩))
      simp [Stmt.reduce, pass.visit_stmt_of_fieldDeclaration _ _ fields, ofForm, Stmt.ofForm,
        Stmt.normal]

theorem StmtForm.reduceParts_of_fieldDeclaration (fields : pass.kind = .fieldDeclaration)
    (shielded : Bool) :
    (form : StmtForm) → form.reduceParts pass shielded = pure (some form.normal)
  | .block body => by
      have ofBody := Stmt.reduceList_of_fieldDeclaration fields body
      simp [StmtForm.reduceParts, StmtForm.normal, ofBody]
  | .declare decl => by
      simp [StmtForm.reduceParts, StmtForm.normal, decl.reduce_of_fieldDeclaration fields]
  | .expr value => by
      simp [StmtForm.reduceParts, StmtForm.normal, value.reduce_of_fieldDeclaration fields]
  | .ifElse cond thenBranch none => by
      have ofThen := thenBranch.reduce_of_fieldDeclaration fields
      simp [StmtForm.reduceParts, StmtForm.normal, cond.reduce_of_fieldDeclaration fields, ofThen]
  | .ifElse cond thenBranch (some elseBranch) => by
      have ofThen := thenBranch.reduce_of_fieldDeclaration fields
      have ofElse := elseBranch.reduce_of_fieldDeclaration fields
      simp [StmtForm.reduceParts, StmtForm.normal, cond.reduce_of_fieldDeclaration fields, ofThen,
        ofElse]
  | .forLoop init cond update body => by
      have ofBody := body.reduce_of_fieldDeclaration fields
      simp [StmtForm.reduceParts, StmtForm.normal, ForInit.reduce_of_fieldDeclaration fields,
        Expr.reduceOption_of_fieldDeclaration fields, Expr.reduceList_of_fieldDeclaration fields,
        ofBody]
  | .whileLoop cond body | .doWhile body cond => by
      have ofBody := body.reduce_of_fieldDeclaration fields
      simp [StmtForm.reduceParts, StmtForm.normal, cond.reduce_of_fieldDeclaration fields, ofBody]
  | .ret value => by
      simp [StmtForm.reduceParts, StmtForm.normal, Expr.reduceOption_of_fieldDeclaration fields]
  | .brk | .cont | .empty => by simp [StmtForm.reduceParts, StmtForm.normal]

theorem Stmt.reduceList_of_fieldDeclaration (fields : pass.kind = .fieldDeclaration) :
    (stmts : List Stmt) → Stmt.reduceList pass stmts = pure (Stmt.normalList stmts)
  | [] => by rw [Stmt.reduceList, Stmt.normalList]
  | stmt :: rest => by
      have head := stmt.reduce_of_fieldDeclaration fields
      have tail := Stmt.reduceList_of_fieldDeclaration fields rest
      simp [Stmt.reduceList, Stmt.normalList, Pass.sweeps, fields, head, tail]

end

end Code

/-! ## Declarations that a pass leaves -/

/-- What a visit gives is what it gives at a node that is selected, or at one that is kept. -/
theorem Pass.visit_value_cases (pass : Pass) {α : Type} (node : Node)
    (selected kept : Survey (Option α)) (mode : Mode) :
    (pass.isCandidate node = true ∧
        ∃ rest, (pass.visit node selected kept mode).value = (selected rest).value) ∨
      ∃ rest, (pass.visit node selected kept mode).value = (kept rest).value := by
  rw [pass.visit_eq_choose, Pass.choose]
  split
  · rename_i met
    split
    · exact .inl ⟨(Bool.and_eq_true_iff.mp met).1, mode.after 1, rfl⟩
    · exact .inr ⟨mode.after 1, rfl⟩
  · exact .inr ⟨mode, rfl⟩

/-- No kind but one is about declarations. -/
theorem Pass.visit_member_of_ne {pass : Pass} (code : pass.kind ≠ .fieldDeclaration) {α : Type}
    (member : Member) (selected kept : Survey (Option α)) :
    pass.visit (.member member) selected kept = kept := by
  refine visit_of_not_isCandidate selected kept ?_
  cases kind : pass.kind <;> simp_all [isCandidate, matchesNode, matchesMember]

section Declarations

variable {pass : Pass}

mutual

/-- A kind that is about code leaves a declaration where it is, with the signature that it has. -/
theorem Member.signature_reduce (code : pass.kind ≠ .fieldDeclaration) (mode : Mode) :
    (member : Member) →
      (member.reduce pass mode).value.map Member.signature = some member.signature
  | ⟨trivia, form⟩ => by
      have ofForm := form.signature_reduceParts code mode
      simp [Member.reduce, pass.visit_member_of_ne code, ofForm]

theorem MemberForm.signature_reduceParts (code : pass.kind ≠ .fieldDeclaration) (mode : Mode) :
    (form : MemberForm) → (form.reduceParts pass mode).value.signature = form.signature
  | .classDecl modifiers name members => by
      have ofMembers := Member.signatures_reduceList code mode members
      simp [MemberForm.reduceParts, ofMembers]
  | .field decl | .method decl => by simp [MemberForm.reduceParts]

theorem Member.signatures_reduceList (code : pass.kind ≠ .fieldDeclaration) (mode : Mode) :
    (members : List Member) →
      Member.signatures (Member.reduceList pass members mode).value = Member.signatures members
  | [] => by simp [Member.reduceList]
  | member :: rest => by
      have head := member.signature_reduce code mode
      rcases Option.map_eq_some_iff.mp head with ⟨member', value, same⟩
      have tail := Member.signatures_reduceList code
        (mode.after (member.reduce pass mode).candidates) rest
      simp [Member.reduceList, value, same, tail]

end

mutual

/-- A pass on fields thins out members. -/
theorem Member.thinned_reduce (fields : pass.kind = .fieldDeclaration) (mode : Mode)
    {rest rest' : List Member} (others : Thinned pass.options rest rest') :
    (member : Member) →
      Thinned pass.options (member :: rest) ((member.reduce pass mode).value.toList ++ rest')
  | ⟨trivia, .classDecl modifiers name members⟩ => by
      have notCandidate :
          pass.isCandidate (.member ⟨[], .classDecl modifiers name members⟩) = false := by
        simp [Pass.isCandidate, Pass.matchesNode, Pass.matchesMember, fields]
      have inner := Member.thinned_reduceList fields mode members
      simpa [Member.reduce, MemberForm.reduceParts, Pass.visit_of_not_isCandidate _ _ notCandidate]
        using Thinned.classDecl inner others
  | ⟨trivia, .field decl⟩ => by
      -- A field goes only when it is selected, and none that mentions a marker is.
      rw [Member.reduce]
      rcases pass.visit_value_cases (.member ⟨[], .field decl⟩) _ _ mode with
        ⟨candidate, _, value⟩ | ⟨_, value⟩
      · have unmarked : pass.options.mentionsMarker (.member ⟨trivia, .field decl⟩) = false := by
          rw [← ReduceOptions.mentionsMarker_normal]
          simpa [Pass.isCandidate, Pass.matchesNode, Pass.matchesMember, Pass.shields, fields,
            RemovalKind.guardsMarkers, Node.normal, Member.normal, MemberForm.normal]
            using candidate
        rw [value]
        exact .gone unmarked others
      · rw [value]
        simpa [MemberForm.reduceParts, Expr.reduceOption_of_fieldDeclaration fields]
          using Thinned.field others
  | ⟨trivia, .method decl⟩ => by
      have notCandidate : pass.isCandidate (.member ⟨[], .method decl⟩) = false := by
        simp [Pass.isCandidate, Pass.matchesNode, Pass.matchesMember, fields]
      simpa [Member.reduce, MemberForm.reduceParts, Pass.visit_of_not_isCandidate _ _ notCandidate,
        Stmt.reduceList_of_fieldDeclaration fields] using Thinned.method others

theorem Member.thinned_reduceList (fields : pass.kind = .fieldDeclaration) (mode : Mode) :
    (members : List Member) →
      Thinned pass.options members (Member.reduceList pass members mode).value
  | [] => by simpa [Member.reduceList] using Thinned.nil
  | member :: rest => by
      have others := Member.thinned_reduceList fields
        (mode.after (member.reduce pass mode).candidates) rest
      simpa [Member.reduceList] using member.thinned_reduce fields mode others

end

end Declarations

/--
A pass keeps what a program declares.  The classes and methods, at any depth,
are declared in the same order with the same names, modifiers, parameters and
results.  Fields are declared as they were, unless the kind is about fields; and
such a kind changes nothing else: it leaves out whole fields that mention no
marker, and brings everything else into normal form.
-/
theorem Pass.apply_keeps_declarations (pass : Pass) (program : Program) (mode : Mode) :
    Signature.fieldless (Member.signatures (pass.apply program mode).value.members) =
        Signature.fieldless (Member.signatures program.members) ∧
      (pass.kind ≠ .fieldDeclaration →
        Member.signatures (pass.apply program mode).value.members =
          Member.signatures program.members) ∧
      (pass.kind = .fieldDeclaration →
        Thinned pass.options program.members (pass.apply program mode).value.members) := by
  have ofCode (code : pass.kind ≠ .fieldDeclaration) :=
    Member.signatures_reduceList code mode program.members
  have ofFields (fields : pass.kind = .fieldDeclaration) :=
    Member.thinned_reduceList fields mode program.members
  refine ⟨?_, ofCode, ofFields⟩
  by_cases fields : pass.kind = .fieldDeclaration
  · exact (ofFields fields).fieldless_signatures
  · exact congrArg Signature.fieldless (ofCode fields)

/-- A class in a class, with two fields and a method; one of the fields mentions a counter. -/
def nestedDeclarations : Program :=
  ⟨[⟨[.line " outer"], .classDecl ["public"] "Outer"
    [⟨[], .field ⟨["static"], "int", "x", some (.literal (.int 1))⟩⟩,
      ⟨[], .classDecl [] "Inner"
        [⟨[.line " kept"], .field ⟨[], "int", "__loopvar", some (.literal (.int 2))⟩⟩,
          ⟨[], .method ⟨[], "void", "f", [⟨"int", "y"⟩],
            [⟨[], .forLoop (some (.run [])) none [] .nothing⟩]⟩⟩]⟩]⟩]⟩

/-- A batch on fields leaves out the one that mentions no counter. -/
example :
    (Pass.apply ⟨.fieldDeclaration, .standard⟩ nestedDeclarations .all).value =
      ⟨[⟨[], .classDecl ["public"] "Outer"
        [⟨[], .classDecl [] "Inner"
          [⟨[], .field ⟨[], "int", "__loopvar", some (.literal (.int 2))⟩⟩,
            ⟨[], .method ⟨[], "void", "f", [⟨"int", "y"⟩],
              [⟨[], .forLoop none none [] .nothing⟩]⟩⟩]⟩]⟩]⟩ := by
  rfl

/-- A batch on constants keeps both fields without their values; one on fields thins them out. -/
theorem Pass.apply_keeps_declarations_nested :
    Member.signatures
          (Pass.apply ⟨.literal, .standard⟩ nestedDeclarations .all).value.members =
        Member.signatures nestedDeclarations.members ∧
      Thinned .standard nestedDeclarations.members
        (Pass.apply ⟨.fieldDeclaration, .standard⟩ nestedDeclarations .all).value.members :=
  ⟨(apply_keeps_declarations ⟨.literal, .standard⟩ nestedDeclarations .all).2.1 (by decide),
    (apply_keeps_declarations ⟨.fieldDeclaration, .standard⟩ nestedDeclarations .all).2.2 rfl⟩

end Whittle

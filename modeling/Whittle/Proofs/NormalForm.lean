import Whittle.Reduction.Pass

/-!
# Normal forms

The normal form of a program has no comments, and where a counting loop starts
with an empty list of expressions it has no start.  Neither is seen by a pass:
the text without comments is the same, and so is every test on it.
-/

namespace Whittle

/-! ## Normal forms -/

/-- The start of a counting loop, where an empty list of expressions is missing. -/
def ForInit.normal : Option ForInit → Option ForInit
  | some (.run []) => none
  | init => init

mutual

/-- The statement without comments and without empty lists of starting expressions. -/
def Stmt.normal : Stmt → Stmt
  | ⟨_, form⟩ => ⟨[], form.normal⟩

/-- The normal form of what a statement is without its comments. -/
def StmtForm.normal : StmtForm → StmtForm
  | .block body => .block (Stmt.normalList body)
  | .ifElse cond thenBranch none => .ifElse cond thenBranch.normal none
  | .ifElse cond thenBranch (some elseBranch) =>
      .ifElse cond thenBranch.normal (some elseBranch.normal)
  | .forLoop init cond update body => .forLoop (ForInit.normal init) cond update body.normal
  | .whileLoop cond body => .whileLoop cond body.normal
  | .doWhile body cond => .doWhile body.normal cond
  | .declare decl => .declare decl
  | .expr value => .expr value
  | .ret value => .ret value
  | .brk => .brk
  | .cont => .cont
  | .empty => .empty

/-- The normal form of each statement. -/
def Stmt.normalList : List Stmt → List Stmt
  | [] => []
  | stmt :: rest => stmt.normal :: Stmt.normalList rest

end

mutual

/-- The declaration without comments and without empty lists of starting expressions. -/
def Member.normal : Member → Member
  | ⟨_, form⟩ => ⟨[], form.normal⟩

/-- The normal form of what a declaration is without its comments. -/
def MemberForm.normal : MemberForm → MemberForm
  | .classDecl modifiers name members => .classDecl modifiers name (Member.normalList members)
  | .field decl => .field decl
  | .method decl => .method { decl with body := Stmt.normalList decl.body }

/-- The normal form of each declaration. -/
def Member.normalList : List Member → List Member
  | [] => []
  | member :: rest => member.normal :: Member.normalList rest

end

/-- The normal form of a node. -/
def Node.normal : Node → Node
  | .member value => .member value.normal
  | .stmt value => .stmt value.normal
  | .expr value => .expr value

/-- The program without comments and without empty lists of starting expressions. -/
def Program.normal (program : Program) : Program :=
  ⟨Member.normalList program.members⟩

theorem Stmt.normalList_eq_map (stmts : List Stmt) :
    Stmt.normalList stmts = stmts.map Stmt.normal := by
  induction stmts with
  | nil => rfl
  | cons stmt rest ih => simp [Stmt.normalList, ih]

theorem Member.normalList_eq_map (members : List Member) :
    Member.normalList members = members.map Member.normal := by
  induction members with
  | nil => rfl
  | cons member rest ih => simp [Member.normalList, ih]

/-! ## The text of a normal form -/

@[simp]
theorem ForInit.chars_normal (init : Option ForInit) :
    ForInit.chars (ForInit.normal init) = ForInit.chars init := by
  match init with
  | none => rfl
  | some (.declare _) => rfl
  | some (.run []) => rfl
  | some (.run (_ :: _)) => rfl

mutual

/-- The text without comments is that of the normal form. -/
theorem Stmt.chars_normal (depth : Nat) :
    (stmt : Stmt) → stmt.normal.chars ⟨false, depth⟩ = stmt.chars ⟨false, depth⟩
  | ⟨_, form⟩ => by
      simp [Stmt.normal, Stmt.chars, Comment.leading, form.chars_normal depth]

theorem Stmt.nestedChars_normal (depth : Nat) :
    (stmt : Stmt) → stmt.normal.nestedChars ⟨false, depth⟩ = stmt.nestedChars ⟨false, depth⟩
  | ⟨_, form⟩ => by
      simp [Stmt.normal, Stmt.nestedChars, Comment.inlined, form.chars_normal depth]

theorem StmtForm.chars_normal (depth : Nat) :
    (form : StmtForm) → form.normal.chars ⟨false, depth⟩ = form.chars ⟨false, depth⟩
  | .block body => by
      have ofBody := Stmt.linesChars_normalList (depth + 1) body
      simp [StmtForm.normal, Layout.inner, ofBody]
  | .ifElse cond thenBranch none => by
      simp [StmtForm.normal, thenBranch.nestedChars_normal depth]
  | .ifElse cond thenBranch (some elseBranch) => by
      simp [StmtForm.normal, thenBranch.nestedChars_normal depth,
        elseBranch.nestedChars_normal depth]
  | .forLoop init cond update body => by
      simp [StmtForm.normal, StmtForm.forHeader, body.nestedChars_normal depth]
  | .whileLoop cond body => by
      simp [StmtForm.normal, body.nestedChars_normal depth]
  | .doWhile body cond => by
      simp [StmtForm.normal, body.nestedChars_normal depth]
  | .declare decl => rfl
  | .expr value => rfl
  | .ret value => rfl
  | .brk => rfl
  | .cont => rfl
  | .empty => rfl

theorem Stmt.linesChars_normalList (depth : Nat) :
    (stmts : List Stmt) →
      Stmt.linesChars ⟨false, depth⟩ (Stmt.normalList stmts) =
        Stmt.linesChars ⟨false, depth⟩ stmts
  | [] => rfl
  | stmt :: rest => by
      simp [Stmt.normalList, Stmt.linesChars, stmt.chars_normal depth,
        Stmt.linesChars_normalList depth rest]

end

mutual

theorem Member.chars_normal (depth : Nat) :
    (member : Member) → member.normal.chars ⟨false, depth⟩ = member.chars ⟨false, depth⟩
  | ⟨_, form⟩ => by
      simp [Member.normal, Member.chars, Comment.leading, form.chars_normal depth]

theorem MemberForm.chars_normal (depth : Nat) :
    (form : MemberForm) → form.normal.chars ⟨false, depth⟩ = form.chars ⟨false, depth⟩
  | .classDecl modifiers name members => by
      simp [MemberForm.normal, MemberForm.chars, Layout.inner,
        Member.linesChars_normalList (depth + 1) members]
  | .field decl => rfl
  | .method decl => by
      simp [MemberForm.normal, MemberForm.chars, MethodDecl.chars, Stmt.blockChars, Layout.inner,
        Stmt.linesChars_normalList (depth + 1) decl.body]

theorem Member.linesChars_normalList (depth : Nat) :
    (members : List Member) →
      Member.linesChars ⟨false, depth⟩ (Member.normalList members) =
        Member.linesChars ⟨false, depth⟩ members
  | [] => rfl
  | member :: rest => by
      simp [Member.normalList, Member.linesChars, member.chars_normal depth,
        Member.linesChars_normalList depth rest]

end

theorem Node.chars_normal (node : Node) : node.normal.chars = node.chars := by
  cases node with
  | member value => exact value.chars_normal 0
  | stmt value => exact value.chars_normal 0
  | expr value => rfl

theorem ReduceOptions.mentionsMarker_normal (options : ReduceOptions) (node : Node) :
    options.mentionsMarker node.normal = options.mentionsMarker node := by
  simp [ReduceOptions.mentionsMarker, node.chars_normal]

theorem ReduceOptions.beginsDiagnostic_normal (options : ReduceOptions) (node : Node) :
    options.beginsDiagnostic node.normal = options.beginsDiagnostic node := by
  simp [ReduceOptions.beginsDiagnostic, node.chars_normal]

namespace Pass

variable (pass : Pass)

theorem shields_normal (node : Node) : pass.shields node.normal = pass.shields node := by
  simp [Pass.shields, ReduceOptions.mentionsMarker_normal]

theorem matchesStmt_normal (stmt : Stmt) :
    pass.matchesStmt stmt.normal = pass.matchesStmt stmt := by
  have diagnostic :
      pass.options.beginsDiagnostic (.stmt stmt.normal) =
        pass.options.beginsDiagnostic (.stmt stmt) :=
    pass.options.beginsDiagnostic_normal (.stmt stmt)
  rcases stmt with ⟨trivia, form⟩
  cases kind : pass.kind with
  | diagnosticLog => simpa [matchesStmt, kind] using diagnostic
  | block =>
      cases form with
      | block body =>
          cases body <;>
            simp [matchesStmt, kind, Stmt.normal, StmtForm.normal, Stmt.normalList,
              StmtForm.isBlock, StmtForm.isEmptyBlock]
      | ifElse cond thenBranch elseBranch =>
          cases elseBranch <;>
            simp [matchesStmt, kind, Stmt.normal, StmtForm.normal, StmtForm.isBlock]
      | _ => simp [matchesStmt, kind, Stmt.normal, StmtForm.normal, StmtForm.isBlock]
  | _ =>
      cases form with
      | ifElse cond thenBranch elseBranch =>
          cases elseBranch <;> simp [matchesStmt, kind, Stmt.normal, StmtForm.normal]
      | _ => simp [matchesStmt, kind, Stmt.normal, StmtForm.normal]

theorem matchesMember_normal (member : Member) :
    pass.matchesMember member.normal = pass.matchesMember member := by
  rcases member with ⟨trivia, form⟩
  cases form <;> cases kind : pass.kind <;>
    simp only [matchesMember, kind, Member.normal, MemberForm.normal]

theorem matchesNode_normal (node : Node) :
    pass.matchesNode node.normal = pass.matchesNode node := by
  cases node with
  | member value => exact pass.matchesMember_normal value
  | stmt value => exact pass.matchesStmt_normal value
  | expr value => simp only [Node.normal]

theorem isCandidate_normal (node : Node) :
    pass.isCandidate node.normal = pass.isCandidate node := by
  simp [isCandidate, matchesNode_normal, shields_normal]

end Pass

end Whittle

import Whittle.Proofs.OutlineWalks
import Whittle.Proofs.SkeletonAgreement

/-!
# Programs without comments

Three recursions deal with comments, each in its own way: the walk asks for them
at every node, the text puts them on lines of their own or within a line, and a
pass drops them.  All three are about the same comments, those of the nodes that
the walk meets: a program has none of them if clearing the comments at every
depth changes nothing, and that is so if its text is the same with and without
comments.  What a pass leaves has none.
-/

namespace Whittle

/-! ## Clearing the comments -/

mutual

/-- The statement without comments at any depth. -/
def Stmt.uncommented : Stmt → Stmt
  | ⟨_, form⟩ => ⟨[], form.uncommented⟩

def StmtForm.uncommented : StmtForm → StmtForm
  | .block body => .block (Stmt.uncommentedList body)
  | .ifElse cond thenBranch none => .ifElse cond thenBranch.uncommented none
  | .ifElse cond thenBranch (some elseBranch) =>
      .ifElse cond thenBranch.uncommented (some elseBranch.uncommented)
  | .forLoop init cond update body => .forLoop init cond update body.uncommented
  | .whileLoop cond body => .whileLoop cond body.uncommented
  | .doWhile body cond => .doWhile body.uncommented cond
  | .declare decl => .declare decl
  | .expr value => .expr value
  | .ret value => .ret value
  | .brk => .brk
  | .cont => .cont
  | .empty => .empty

def Stmt.uncommentedList : List Stmt → List Stmt
  | [] => []
  | stmt :: rest => stmt.uncommented :: Stmt.uncommentedList rest

end

mutual

/-- The declaration without comments at any depth. -/
def Member.uncommented : Member → Member
  | ⟨_, form⟩ => ⟨[], form.uncommented⟩

def MemberForm.uncommented : MemberForm → MemberForm
  | .classDecl modifiers name members =>
      .classDecl modifiers name (Member.uncommentedList members)
  | .field decl => .field decl
  | .method decl => .method { decl with body := Stmt.uncommentedList decl.body }

def Member.uncommentedList : List Member → List Member
  | [] => []
  | member :: rest => member.uncommented :: Member.uncommentedList rest

end

/-- The node without comments at any depth. -/
def Node.uncommented : Node → Node
  | .member value => .member value.uncommented
  | .stmt value => .stmt value.uncommented
  | .expr value => .expr value

/-- The program without comments at any depth. -/
def Program.uncommented (program : Program) : Program :=
  ⟨Member.uncommentedList program.members⟩

/-- The text of a node with all comments. -/
def Node.display : Node → String
  | .member value => value.text true
  | .stmt value => value.text true
  | .expr value => value.text

/-! ## The comments that the walk meets -/

/-- The comments of some nodes, one node after the other. -/
def Node.comments (nodes : List Node) : List Comment :=
  nodes.flatMap Node.trivia

namespace Outline

/-- The comments of the nodes of an outline. -/
def comments (outline : Outline) : List Comment :=
  Node.comments outline.nodes

/-- The comments of the nodes of a list of outlines. -/
def commentsOfList (outlines : List Outline) : List Comment :=
  Node.comments (nodesOfList outlines)

@[simp]
theorem comments_node (head : Node) (children : List Outline) :
    (node head children).comments = head.trivia ++ commentsOfList children := by
  simp [comments, commentsOfList, Node.comments, nodes]

@[simp]
theorem commentsOfList_nil : commentsOfList [] = [] :=
  rfl

@[simp]
theorem commentsOfList_cons (outline : Outline) (rest : List Outline) :
    commentsOfList (outline :: rest) = outline.comments ++ commentsOfList rest := by
  simp [comments, commentsOfList, Node.comments, nodesOfList]

@[simp]
theorem commentsOfList_append (first second : List Outline) :
    commentsOfList (first ++ second) = commentsOfList first ++ commentsOfList second := by
  induction first with
  | nil => rfl
  | cons outline rest ih => simp [ih]

/-- The visitor that stops at the first comment. -/
def seekComment (node : Node) (state : Unit) : Verdict Unit × Unit :=
  (if node.trivia.isEmpty then .advance else .stop (), state)

mutual

theorem walk_seekComment :
    (outline : Outline) →
      ((walk seekComment outline ()).1.isSome = false ↔ outline.comments = [])
  | .node head children => by
      cases trivia : head.trivia with
      | nil => simpa [walk, seekComment, trivia] using walkList_seekComment children
      | cons comment rest => simp [walk, seekComment, trivia]

theorem walkList_seekComment :
    (outlines : List Outline) →
      ((walkList seekComment outlines ()).1.isSome = false ↔ commentsOfList outlines = [])
  | [] => by simp [walkList]
  | outline :: rest => by
      have first := walk_seekComment outline
      have others := walkList_seekComment rest
      rw [walkList, commentsOfList_cons, List.append_eq_nil_iff, ← first, ← others]
      cases walk seekComment outline () with
      | mk found state => cases found <;> simp

end

end Outline

open Outline (commentsOfList)

mutual

/-- No comment stands before an expression. -/
@[simp]
theorem Expr.comments_outline : (expr : Expr) → expr.outline.comments = []
  | .literal _ | .ident _ => rfl
  | .unary _ operand | .cast _ operand | .paren operand | .member operand _ => by
      simp [Expr.outline, Node.trivia, operand.comments_outline]
  | .binary _ left right | .assign _ left right => by
      simp [Expr.outline, Node.trivia, left.comments_outline, right.comments_outline]
  | .invoke callee args => by
      simp [Expr.outline, Node.trivia, callee.comments_outline, Expr.comments_outlines args]
  | .conditional cond thenValue elseValue => by
      simp [Expr.outline, Node.trivia, cond.comments_outline, thenValue.comments_outline,
        elseValue.comments_outline]

@[simp]
theorem Expr.comments_outlines : (exprs : List Expr) → commentsOfList (Expr.outlines exprs) = []
  | [] => rfl
  | expr :: rest => by
      simp [Expr.outlines, expr.comments_outline, Expr.comments_outlines rest]

end

@[simp]
theorem Expr.comments_optionOutline (expr : Option Expr) :
    commentsOfList (Expr.optionOutline expr) = [] := by
  cases expr <;> simp [Expr.optionOutline]

@[simp]
theorem ForInit.comments_outlines (init : Option ForInit) :
    commentsOfList (ForInit.outlines init) = [] := by
  match init with
  | none => rfl
  | some (.declare decl) => simp [ForInit.outlines]
  | some (.run exprs) => simp [ForInit.outlines]

/-! ## Nothing to clear -/

mutual

/-- A statement without comments is left as it is. -/
theorem Stmt.uncommented_eq_self_iff :
    (stmt : Stmt) → (stmt.uncommented = stmt ↔ stmt.outline.comments = [])
  | ⟨trivia, form⟩ => by
      rw [Stmt.uncommented, Stmt.mk.injEq, form.uncommented_eq_self_iff, eq_comm, Stmt.outline,
        Outline.comments_node, List.append_eq_nil_iff]
      rfl

theorem StmtForm.uncommented_eq_self_iff :
    (form : StmtForm) → (form.uncommented = form ↔ commentsOfList form.children = [])
  | .block body => by
      simp [StmtForm.uncommented, StmtForm.children, Stmt.uncommentedList_eq_self_iff body]
  | .ifElse cond thenBranch none => by
      simp [StmtForm.uncommented, StmtForm.children, thenBranch.uncommented_eq_self_iff]
  | .ifElse cond thenBranch (some elseBranch) => by
      simp [StmtForm.uncommented, StmtForm.children, thenBranch.uncommented_eq_self_iff,
        elseBranch.uncommented_eq_self_iff]
  | .forLoop init cond update body => by
      simp [StmtForm.uncommented, StmtForm.children, body.uncommented_eq_self_iff]
  | .whileLoop cond body => by
      simp [StmtForm.uncommented, StmtForm.children, body.uncommented_eq_self_iff]
  | .doWhile body cond => by
      simp [StmtForm.uncommented, StmtForm.children, body.uncommented_eq_self_iff]
  | .declare _ | .expr _ | .ret _ | .brk | .cont | .empty => by
      simp [StmtForm.uncommented, StmtForm.children]

theorem Stmt.uncommentedList_eq_self_iff :
    (stmts : List Stmt) →
      (Stmt.uncommentedList stmts = stmts ↔ commentsOfList (Stmt.outlines stmts) = [])
  | [] => by simp [Stmt.uncommentedList, Stmt.outlines]
  | stmt :: rest => by
      simp [Stmt.uncommentedList, Stmt.outlines, stmt.uncommented_eq_self_iff,
        Stmt.uncommentedList_eq_self_iff rest]

end

mutual

/-- A declaration without comments is left as it is. -/
theorem Member.uncommented_eq_self_iff :
    (member : Member) → (member.uncommented = member ↔ member.outline.comments = [])
  | ⟨trivia, form⟩ => by
      rw [Member.uncommented, Member.mk.injEq, form.uncommented_eq_self_iff, eq_comm,
        Member.outline, Outline.comments_node, List.append_eq_nil_iff]
      rfl

theorem MemberForm.uncommented_eq_self_iff :
    (form : MemberForm) → (form.uncommented = form ↔ commentsOfList form.children = [])
  | .classDecl modifiers name members => by
      simp [MemberForm.uncommented, MemberForm.children,
        Member.uncommentedList_eq_self_iff members]
  | .field _ => by simp [MemberForm.uncommented, MemberForm.children]
  | .method decl => by
      have ofBody := Stmt.uncommentedList_eq_self_iff decl.body
      cases decl
      simpa [MemberForm.uncommented, MemberForm.children] using ofBody

theorem Member.uncommentedList_eq_self_iff :
    (members : List Member) →
      (Member.uncommentedList members = members ↔ commentsOfList (Member.outlines members) = [])
  | [] => by simp [Member.uncommentedList, Member.outlines]
  | member :: rest => by
      simp [Member.uncommentedList, Member.outlines, member.uncommented_eq_self_iff,
        Member.uncommentedList_eq_self_iff rest]

end

/-! ## Texts -/

namespace Comment

/-- Each comment on a line of its own takes room. -/
theorem length_le_leading (depth : Nat) (trivia : List Comment) :
    trivia.length ≤ (leading ⟨true, depth⟩ trivia).length := by
  induction trivia with
  | nil => simp
  | cons comment rest ih =>
      simp only [leading, if_true, List.flatMap_cons, List.length_append, List.length_cons] at ih ⊢
      omega

/-- Each comment within a line takes room. -/
theorem length_le_inlined (depth : Nat) (trivia : List Comment) :
    trivia.length ≤ (inlined ⟨true, depth⟩ trivia).length := by
  induction trivia with
  | nil => simp
  | cons comment rest ih =>
      simp only [inlined, if_true, List.flatMap_cons, List.length_append, List.length_cons,
        inlineChars] at ih ⊢
      have marks : "/* ".toList.length = 3 := rfl
      omega

end Comment

mutual

/-- Without comments a statement is written as it is when comments are left out. -/
theorem Stmt.chars_uncommented (layout : Layout) :
    (stmt : Stmt) → stmt.uncommented.chars layout = stmt.chars ⟨false, layout.depth⟩
  | ⟨_, form⟩ => by
      simp [Stmt.uncommented, Stmt.chars, Comment.leading, form.chars_uncommented layout]

theorem Stmt.nestedChars_uncommented (layout : Layout) :
    (stmt : Stmt) → stmt.uncommented.nestedChars layout = stmt.nestedChars ⟨false, layout.depth⟩
  | ⟨_, form⟩ => by
      simp [Stmt.uncommented, Stmt.nestedChars, Comment.inlined, form.chars_uncommented layout]

theorem StmtForm.chars_uncommented (layout : Layout) :
    (form : StmtForm) → form.uncommented.chars layout = form.chars ⟨false, layout.depth⟩
  | .block body => congrArg layout.braces (Stmt.linesChars_uncommentedList layout.inner body)
  | .ifElse cond thenBranch none => by
      simp [StmtForm.uncommented, thenBranch.nestedChars_uncommented layout]
  | .ifElse cond thenBranch (some elseBranch) => by
      simp [StmtForm.uncommented, thenBranch.nestedChars_uncommented layout,
        elseBranch.nestedChars_uncommented layout]
  | .forLoop init cond update body => by
      simp [StmtForm.uncommented, body.nestedChars_uncommented layout]
  | .whileLoop cond body => by
      simp [StmtForm.uncommented, body.nestedChars_uncommented layout]
  | .doWhile body cond => by
      simp [StmtForm.uncommented, body.nestedChars_uncommented layout]
  | .declare _ | .expr _ | .ret none | .ret (some _) | .brk | .cont | .empty => rfl

theorem Stmt.linesChars_uncommentedList (layout : Layout) :
    (stmts : List Stmt) →
      Stmt.linesChars layout (Stmt.uncommentedList stmts) =
        Stmt.linesChars ⟨false, layout.depth⟩ stmts
  | [] => rfl
  | stmt :: rest => by
      simp [Stmt.uncommentedList, Stmt.linesChars, Layout.indent, stmt.chars_uncommented layout,
        Stmt.linesChars_uncommentedList layout rest]

end

theorem Stmt.blockChars_uncommentedList (layout : Layout) (body : List Stmt) :
    Stmt.blockChars layout (Stmt.uncommentedList body) =
      Stmt.blockChars ⟨false, layout.depth⟩ body :=
  (StmtForm.block body).chars_uncommented layout

mutual

/-- Without comments a declaration is written as it is when comments are left out. -/
theorem Member.chars_uncommented (layout : Layout) :
    (member : Member) → member.uncommented.chars layout = member.chars ⟨false, layout.depth⟩
  | ⟨_, form⟩ => by
      simp [Member.uncommented, Member.chars, Comment.leading, form.chars_uncommented layout]

theorem MemberForm.chars_uncommented (layout : Layout) :
    (form : MemberForm) → form.uncommented.chars layout = form.chars ⟨false, layout.depth⟩
  | .classDecl modifiers name members => by
      have ofMembers := Member.linesChars_uncommentedList layout.inner members
      have inBraces := congrArg layout.braces ofMembers
      exact congrArg (Member.modifierChars modifiers ++ "class ".toList ++ name.toList ++ ' ' :: ·)
        inBraces
  | .field _ => rfl
  | .method decl => by
      simp [MemberForm.uncommented, MemberForm.chars, MethodDecl.chars,
        Stmt.blockChars_uncommentedList layout decl.body]

theorem Member.linesChars_uncommentedList (layout : Layout) :
    (members : List Member) →
      Member.linesChars layout (Member.uncommentedList members) =
        Member.linesChars ⟨false, layout.depth⟩ members
  | [] => rfl
  | member :: rest => by
      simp [Member.uncommentedList, Member.linesChars, Layout.indent,
        member.chars_uncommented layout, Member.linesChars_uncommentedList layout rest]

end

/-! ## Comments take room -/

/-- What takes more room between braces takes more room with them. -/
theorem Layout.length_braces_le (depth : Nat) {room : Nat} {lines commented : List Char}
    (longer : room + lines.length ≤ commented.length) :
    room + (braces ⟨false, depth⟩ lines).length ≤ (braces ⟨true, depth⟩ commented).length := by
  cases lines with
  | nil =>
      cases commented with
      | nil =>
          obtain rfl : room = 0 := by simpa using longer
          simp [braces]
      | cons c rest =>
          simp only [braces, List.isEmpty_nil, List.isEmpty_cons, if_true, Bool.false_eq_true,
            if_false, List.length_append, List.length_cons, List.length_nil] at longer ⊢
          omega
  | cons first others =>
      cases commented with
      | nil => simp at longer
      | cons c rest =>
          simp only [braces, List.isEmpty_cons, Bool.false_eq_true, if_false, indent,
            List.length_append, List.length_cons, List.length_nil] at longer ⊢
          omega

mutual

/-- Every comment of a statement makes its text longer. -/
theorem Stmt.length_comments_le (depth : Nat) :
    (stmt : Stmt) →
      stmt.outline.comments.length + (stmt.chars ⟨false, depth⟩).length ≤
        (stmt.chars ⟨true, depth⟩).length
  | ⟨trivia, form⟩ => by
      have ofForm := form.length_comments_le depth
      have ofTrivia := Comment.length_le_leading depth trivia
      simp [Stmt.outline, Stmt.chars, Node.trivia, Comment.leading] at ofForm ofTrivia ⊢
      omega

theorem Stmt.length_nested_comments_le (depth : Nat) :
    (stmt : Stmt) →
      stmt.outline.comments.length + (stmt.nestedChars ⟨false, depth⟩).length ≤
        (stmt.nestedChars ⟨true, depth⟩).length
  | ⟨trivia, form⟩ => by
      have ofForm := form.length_comments_le depth
      have ofTrivia := Comment.length_le_inlined depth trivia
      simp [Stmt.outline, Stmt.nestedChars, Node.trivia, Comment.inlined] at ofForm ofTrivia ⊢
      omega

theorem StmtForm.length_comments_le (depth : Nat) :
    (form : StmtForm) →
      (commentsOfList form.children).length + (form.chars ⟨false, depth⟩).length ≤
        (form.chars ⟨true, depth⟩).length
  | .block body =>
      Layout.length_braces_le depth (Stmt.length_commentsOfList_le (depth + 1) body)
  | .ifElse cond thenBranch none => by
      have ofThen := thenBranch.length_nested_comments_le depth
      have room : commentsOfList (StmtForm.ifElse cond thenBranch none).children =
          thenBranch.outline.comments := by
        simp [StmtForm.children]
      simp only [room, StmtForm.chars_ifElse_none, List.length_append]
      omega
  | .ifElse cond thenBranch (some elseBranch) => by
      have ofThen := thenBranch.length_nested_comments_le depth
      have ofElse := elseBranch.length_nested_comments_le depth
      have room : commentsOfList (StmtForm.ifElse cond thenBranch (some elseBranch)).children =
          thenBranch.outline.comments ++ elseBranch.outline.comments := by
        simp [StmtForm.children]
      simp only [room, StmtForm.chars_ifElse_some, List.length_append]
      omega
  | .forLoop init cond update body => by
      have ofBody := body.length_nested_comments_le depth
      have room : commentsOfList (StmtForm.forLoop init cond update body).children =
          body.outline.comments := by
        simp [StmtForm.children]
      simp only [room, StmtForm.chars_forLoop, List.length_append]
      omega
  | .whileLoop cond body => by
      have ofBody := body.length_nested_comments_le depth
      have room : commentsOfList (StmtForm.whileLoop cond body).children =
          body.outline.comments := by
        simp [StmtForm.children]
      simp only [room, StmtForm.chars_whileLoop, List.length_append]
      omega
  | .doWhile body cond => by
      have ofBody := body.length_nested_comments_le depth
      have room : commentsOfList (StmtForm.doWhile body cond).children =
          body.outline.comments := by
        simp [StmtForm.children]
      simp only [room, StmtForm.chars_doWhile, List.length_append]
      omega
  | .declare _ | .expr _ | .ret none | .ret (some _) | .brk | .cont | .empty => by
      simp [StmtForm.children]

theorem Stmt.length_commentsOfList_le (depth : Nat) :
    (stmts : List Stmt) →
      (commentsOfList (Stmt.outlines stmts)).length +
          (Stmt.linesChars ⟨false, depth⟩ stmts).length ≤
        (Stmt.linesChars ⟨true, depth⟩ stmts).length
  | [] => by simp [Stmt.outlines, Stmt.linesChars]
  | stmt :: rest => by
      have first := stmt.length_comments_le depth
      have others := Stmt.length_commentsOfList_le depth rest
      simp [Stmt.outlines, Stmt.linesChars, Layout.indent]
      omega

end

mutual

/-- Every comment of a declaration makes its text longer. -/
theorem Member.length_comments_le (depth : Nat) :
    (member : Member) →
      member.outline.comments.length + (member.chars ⟨false, depth⟩).length ≤
        (member.chars ⟨true, depth⟩).length
  | ⟨trivia, form⟩ => by
      have ofForm := form.length_comments_le depth
      have ofTrivia := Comment.length_le_leading depth trivia
      simp [Member.outline, Member.chars, Node.trivia, Comment.leading] at ofForm ofTrivia ⊢
      omega

theorem MemberForm.length_comments_le (depth : Nat) :
    (form : MemberForm) →
      (commentsOfList form.children).length + (form.chars ⟨false, depth⟩).length ≤
        (form.chars ⟨true, depth⟩).length
  | .classDecl modifiers name members => by
      have inBraces := Layout.length_braces_le depth
        (Member.length_commentsOfList_le (depth + 1) members)
      simp [MemberForm.children, MemberForm.chars, Layout.inner]
      omega
  | .field decl => by simp [MemberForm.children, MemberForm.chars]
  | .method decl => by
      have ofBody := (StmtForm.block decl.body).length_comments_le depth
      simp [MemberForm.children, MemberForm.chars, MethodDecl.chars, Stmt.blockChars,
        StmtForm.children] at ofBody ⊢
      omega

theorem Member.length_commentsOfList_le (depth : Nat) :
    (members : List Member) →
      (commentsOfList (Member.outlines members)).length +
          (Member.linesChars ⟨false, depth⟩ members).length ≤
        (Member.linesChars ⟨true, depth⟩ members).length
  | [] => by simp [Member.outlines, Member.linesChars]
  | member :: rest => by
      have first := member.length_comments_le depth
      have others := Member.length_commentsOfList_le depth rest
      simp [Member.outlines, Member.linesChars, Layout.indent]
      omega

end

/-! ## Programs -/

namespace Program

/-- A program is asked for the comments that its nodes have. -/
theorem containsComments_eq_false_iff (program : Program) :
    program.containsComments = false ↔ commentsOfList program.outlines = [] := by
  rw [containsComments, walk_eq]
  exact Outline.walkList_seekComment program.outlines

theorem uncommented_eq_self_iff (program : Program) :
    program.uncommented = program ↔ program.containsComments = false := by
  rw [containsComments_eq_false_iff, uncommented, outlines,
    ← Member.uncommentedList_eq_self_iff program.members]
  cases program
  simp

/-- Without comments a program is written as it is when comments are left out. -/
theorem text_uncommented (program : Program) (comments : Bool) :
    program.uncommented.text comments = program.text false :=
  congrArg String.ofList (Member.linesChars_uncommentedList (.outermost comments) program.members)

/-- Comments are seen in the text. -/
theorem containsComments_eq_false_iff_text (program : Program) :
    program.containsComments = false ↔ program.text true = program.text false := by
  refine ⟨fun none => ?_, fun same => ?_⟩
  · have cleared := program.uncommented_eq_self_iff.mpr none
    rw [← cleared, text_uncommented, text_uncommented]
  · have longer := Member.length_commentsOfList_le 0 program.members
    have chars : Member.linesChars ⟨true, 0⟩ program.members =
        Member.linesChars ⟨false, 0⟩ program.members := String.ofList_injective same
    rw [chars] at longer
    rw [containsComments_eq_false_iff, ← List.length_eq_zero_iff]
    simp only [outlines]
    omega

end Program

/-- The text of a node is its whole text once the comments are cleared. -/
theorem Node.display_uncommented (node : Node) : node.uncommented.display = node.text := by
  cases node with
  | member value => exact congrArg String.ofList (value.chars_uncommented (.outermost true))
  | stmt value => exact congrArg String.ofList (value.chars_uncommented (.outermost true))
  | expr value => rfl

/-! ## What a pass leaves -/

mutual

/-- A normal form has no comments. -/
theorem Stmt.uncommented_normal : (stmt : Stmt) → stmt.normal.uncommented = stmt.normal
  | ⟨_, form⟩ => congrArg (Stmt.mk []) form.uncommented_normal

theorem StmtForm.uncommented_normal : (form : StmtForm) → form.normal.uncommented = form.normal
  | .block body => congrArg StmtForm.block (Stmt.uncommentedList_normalList body)
  | .ifElse cond thenBranch none => by
      simp [StmtForm.normal, StmtForm.uncommented, thenBranch.uncommented_normal]
  | .ifElse cond thenBranch (some elseBranch) => by
      simp [StmtForm.normal, StmtForm.uncommented, thenBranch.uncommented_normal,
        elseBranch.uncommented_normal]
  | .forLoop init cond update body => by
      simp [StmtForm.normal, StmtForm.uncommented, body.uncommented_normal]
  | .whileLoop cond body => by
      simp [StmtForm.normal, StmtForm.uncommented, body.uncommented_normal]
  | .doWhile body cond => by
      simp [StmtForm.normal, StmtForm.uncommented, body.uncommented_normal]
  | .declare _ | .expr _ | .ret _ | .brk | .cont | .empty => rfl

theorem Stmt.uncommentedList_normalList :
    (stmts : List Stmt) → Stmt.uncommentedList (Stmt.normalList stmts) = Stmt.normalList stmts
  | [] => rfl
  | stmt :: rest => by
      simp [Stmt.normalList, Stmt.uncommentedList, stmt.uncommented_normal,
        Stmt.uncommentedList_normalList rest]

end

mutual

theorem Member.uncommented_normal : (member : Member) → member.normal.uncommented = member.normal
  | ⟨_, form⟩ => congrArg (Member.mk []) form.uncommented_normal

theorem MemberForm.uncommented_normal :
    (form : MemberForm) → form.normal.uncommented = form.normal
  | .classDecl modifiers name members =>
      congrArg (MemberForm.classDecl modifiers name) (Member.uncommentedList_normalList members)
  | .field _ => rfl
  | .method decl => by
      simp [MemberForm.normal, MemberForm.uncommented, Stmt.uncommentedList_normalList decl.body]

theorem Member.uncommentedList_normalList :
    (members : List Member) →
      Member.uncommentedList (Member.normalList members) = Member.normalList members
  | [] => rfl
  | member :: rest => by
      simp [Member.normalList, Member.uncommentedList, member.uncommented_normal,
        Member.uncommentedList_normalList rest]

end

theorem Pass.uncommented_apply (pass : Pass) (program : Program) (mode : Mode) :
    (pass.apply program mode).value.uncommented = (pass.apply program mode).value := by
  rw [← pass.normal_apply program mode]
  exact congrArg Program.mk (Member.uncommentedList_normalList _)

/--
Walk, text and pass agree on comments.  A program is found to have none just when
none of its nodes has one, when clearing them at every depth leaves it as it is,
and when its text with comments is its text without.  The text that tests look at
is the whole text of the cleared node.  No pass leaves a comment, whatever it
keeps, restores or puts in place of something else.
-/
theorem comments_agree :
    (∀ program : Program,
      (program.containsComments = false ↔ program.text true = program.text false) ∧
        (program.containsComments = false ↔ Node.comments program.nodes = []) ∧
          (program.containsComments = false ↔ program.uncommented = program)) ∧
      (∀ node : Node, node.text = node.uncommented.display) ∧
        ∀ (pass : Pass) (program : Program) (mode : Mode),
          (pass.apply program mode).value.containsComments = false := by
  refine ⟨fun program => ⟨?_, ?_, ?_⟩, ?_, ?_⟩
  · exact program.containsComments_eq_false_iff_text
  · exact program.containsComments_eq_false_iff
  · exact program.uncommented_eq_self_iff.symm
  · exact fun node => node.display_uncommented.symm
  · intro pass program mode
    exact (Program.uncommented_eq_self_iff _).mp (pass.uncommented_apply program mode)

end Whittle

import Whittle.Proofs.NormalForm
import Whittle.Proofs.Skeleton

/-!
# The text of a part within the text of its node

A node is written around its parts.  Operands and branches stand in its text as
they are.  What stands between braces is indented once more than when it stands
alone, so of such a part the text is there up to spaces after newlines: whatever
it mentions without a newline, the node mentions, too.
-/

namespace Whittle

namespace Text

/-! ## Indented texts -/

/-- The second text is the first one with spaces put in after some of its newlines. -/
inductive Indented : List Char → List Char → Prop where
  | nil : Indented [] []
  | cons (c : Char) {text deeper : List Char} :
      Indented text deeper → Indented (c :: text) (c :: deeper)
  | newline (width : Nat) {text deeper : List Char} :
      Indented text deeper →
        Indented ('\n' :: text) ('\n' :: (List.replicate width ' ' ++ deeper))

namespace Indented

theorem refl (text : List Char) : Indented text text := by
  induction text with
  | nil => exact .nil
  | cons c rest ih => exact .cons c ih

theorem append {text deeper text' deeper' : List Char} (first : Indented text deeper)
    (second : Indented text' deeper') : Indented (text ++ text') (deeper ++ deeper') := by
  induction first with
  | nil => exact second
  | cons c _ ih => exact .cons c ih
  | newline width _ ih =>
      simp only [List.cons_append, List.append_assoc]
      exact .newline width ih

theorem append_left (same : List Char) {text deeper : List Char} (rest : Indented text deeper) :
    Indented (same ++ text) (same ++ deeper) :=
  (refl same).append rest

theorem append_right {text deeper : List Char} (start : Indented text deeper) (same : List Char) :
    Indented (text ++ same) (deeper ++ same) :=
  start.append (refl same)

variable {needle text deeper : List Char}

theorem isPrefix_of_isPrefix (indented : Indented text deeper) (noNewline : '\n' ∉ needle)
    (found : needle <+: text) : needle <+: deeper := by
  induction indented generalizing needle with
  | nil => exact found
  | cons c _ ih =>
      rcases List.prefix_cons_iff.mp found with rfl | ⟨rest, rfl, inRest⟩
      · exact List.nil_prefix
      · have ofRest := ih (fun member => noNewline (List.mem_cons_of_mem _ member)) inRest
        exact List.cons_prefix_cons.mpr ⟨rfl, ofRest⟩
  | newline width _ ih =>
      rcases List.prefix_cons_iff.mp found with rfl | ⟨rest, rfl, _⟩
      · exact List.nil_prefix
      · exact (noNewline (List.mem_cons_self ..)).elim

/-- What a text mentions without a newline is still there once it is indented. -/
theorem isInfix_of_isInfix (indented : Indented text deeper) (noNewline : '\n' ∉ needle)
    (found : needle <:+: text) : needle <:+: deeper := by
  induction indented with
  | nil => exact found
  | cons c rest ih =>
      rcases List.infix_cons_iff.mp found with found | found
      · exact ((rest.cons c).isPrefix_of_isPrefix noNewline found).isInfix
      · exact List.infix_cons (ih found)
  | newline width rest ih =>
      rcases List.infix_cons_iff.mp found with found | found
      · exact ((rest.newline width).isPrefix_of_isPrefix noNewline found).isInfix
      · have ofRest := ih found
        exact List.infix_cons (ofRest.trans (List.suffix_append _ _).isInfix)

end Indented

theorem infix_joinWith (separator : List Char) {item : List Char} {items : List (List Char)}
    (member : item ∈ items) : item <:+: joinWith separator items := by
  induction items with
  | nil => cases member
  | cons first rest ih =>
      cases rest with
      | nil =>
          obtain rfl : item = first := by simpa using member
          exact List.infix_rfl
      | cons next rest =>
          rw [joinWith]
          rcases List.mem_cons.mp member with rfl | member
          · exact ⟨[], separator ++ joinWith separator (next :: rest), by simp⟩
          · exact (ih member).trans (List.suffix_append _ _).isInfix

end Text

/-! ## Texts further in -/

open Text (Indented)

namespace Layout

/-- The layout of a text without comments. -/
def bare (depth : Nat) : Layout := ⟨false, depth⟩

@[simp]
theorem inner_bare (depth : Nat) : (bare depth).inner = bare (depth + 1) :=
  rfl

theorem indent_bare_succ (depth : Nat) :
    (bare (depth + 1)).indent = List.replicate 4 ' ' ++ (bare depth).indent := by
  simp only [indent, bare, List.replicate_append_replicate]
  congr 1
  omega

/-- The end of a line, and what closes the braces around it. -/
theorem closing_indented (depth : Nat) :
    Indented ('\n' :: ((bare depth).indent ++ ['\x7d']))
      ('\n' :: ((bare (depth + 1)).indent ++ ['\x7d'])) := by
  rw [indent_bare_succ, List.append_assoc]
  exact .newline 4 (.refl _)

/-- A line that is indented once more, and what follows it. -/
theorem line_indented (depth : Nat) {text deeper rest rest' : List Char}
    (first : Indented text deeper) (others : Indented ('\n' :: rest) ('\n' :: rest')) :
    Indented ('\n' :: ((bare depth).indent ++ text ++ '\n' :: rest))
      ('\n' :: ((bare (depth + 1)).indent ++ deeper ++ '\n' :: rest')) := by
  rw [indent_bare_succ, List.append_assoc, List.append_assoc, List.append_assoc]
  exact .newline 4 ((first.append others).append_left _)

/-- Braces around lines that are indented once more. -/
theorem braces_indented (depth : Nat) {lines deeper : List Char}
    (alike : lines.isEmpty = deeper.isEmpty)
    (indented : Indented ('\n' :: (lines ++ ((bare depth).indent ++ ['\x7d'])))
      ('\n' :: (deeper ++ ((bare (depth + 1)).indent ++ ['\x7d'])))) :
    Indented ((bare depth).braces lines) ((bare (depth + 1)).braces deeper) := by
  simp only [braces, alike]
  split
  · exact .refl _
  · simpa using indented.cons '\x7b'

end Layout

open Layout (bare)

mutual

/-- A statement one brace further in is the same but indented once more. -/
theorem Stmt.chars_indented (depth : Nat) :
    (stmt : Stmt) → Indented (stmt.chars (bare depth)) (stmt.chars (bare (depth + 1)))
  | ⟨_, form⟩ => form.chars_indented depth

theorem Stmt.nestedChars_indented (depth : Nat) :
    (stmt : Stmt) →
      Indented (stmt.nestedChars (bare depth)) (stmt.nestedChars (bare (depth + 1)))
  | ⟨_, form⟩ => form.chars_indented depth

theorem StmtForm.chars_indented (depth : Nat) :
    (form : StmtForm) → Indented (form.chars (bare depth)) (form.chars (bare (depth + 1)))
  | .block body =>
      Layout.braces_indented depth (by cases body <;> rfl) (Stmt.linesChars_indented depth body)
  | .declare decl => .refl _
  | .expr value => .refl _
  | .ifElse cond thenBranch none => (thenBranch.nestedChars_indented depth).append_left _
  | .ifElse cond thenBranch (some elseBranch) =>
      (((thenBranch.nestedChars_indented depth).append_left _).append_right _).append
        (elseBranch.nestedChars_indented depth)
  | .forLoop init cond update body => (body.nestedChars_indented depth).append_left _
  | .whileLoop cond body => (body.nestedChars_indented depth).append_left _
  | .doWhile body cond =>
      ((((body.nestedChars_indented depth).append_left _).append_right _).append_right
        _).append_right _
  | .ret none => .refl _
  | .ret (some value) => .refl _
  | .brk => .refl _
  | .cont => .refl _
  | .empty => .refl _

theorem Stmt.linesChars_indented (depth : Nat) :
    (stmts : List Stmt) →
      Indented
        ('\n' :: (Stmt.linesChars (bare (depth + 1)) stmts ++ ((bare depth).indent ++ ['\x7d'])))
        ('\n' :: (Stmt.linesChars (bare (depth + 2)) stmts ++
          ((bare (depth + 1)).indent ++ ['\x7d'])))
  | [] => Layout.closing_indented depth
  | stmt :: rest => by
      have first := stmt.chars_indented (depth + 1)
      have others := Stmt.linesChars_indented depth rest
      have line := Layout.line_indented (depth + 1) first others
      simpa [Stmt.linesChars] using line

end

theorem Stmt.blockChars_indented (depth : Nat) (body : List Stmt) :
    Indented (Stmt.blockChars (bare depth) body) (Stmt.blockChars (bare (depth + 1)) body) :=
  Layout.braces_indented depth (by cases body <;> rfl) (Stmt.linesChars_indented depth body)

mutual

/-- A declaration one brace further in is the same but indented once more. -/
theorem Member.chars_indented (depth : Nat) :
    (member : Member) → Indented (member.chars (bare depth)) (member.chars (bare (depth + 1)))
  | ⟨_, form⟩ => form.chars_indented depth

theorem MemberForm.chars_indented (depth : Nat) :
    (form : MemberForm) → Indented (form.chars (bare depth)) (form.chars (bare (depth + 1)))
  | .classDecl modifiers name members =>
      ((Layout.braces_indented depth (by cases members <;> rfl)
        (Member.linesChars_indented depth members)).cons ' ').append_left _
  | .field decl => .refl _
  | .method decl => (Stmt.blockChars_indented depth decl.body).append_left _

theorem Member.linesChars_indented (depth : Nat) :
    (members : List Member) →
      Indented
        ('\n' :: (Member.linesChars (bare (depth + 1)) members ++
          ((bare depth).indent ++ ['\x7d'])))
        ('\n' :: (Member.linesChars (bare (depth + 2)) members ++
          ((bare (depth + 1)).indent ++ ['\x7d'])))
  | [] => Layout.closing_indented depth
  | member :: rest => by
      have first := member.chars_indented (depth + 1)
      have others := Member.linesChars_indented depth rest
      have line := Layout.line_indented (depth + 1) first others
      simpa [Member.linesChars] using line

end

/-! ## Parts within their nodes -/

/-- Whatever the one node mentions without a newline, the other mentions, too. -/
def Node.Includes (node inner : Node) : Prop :=
  ∀ needle, '\n' ∉ needle → needle <:+: inner.chars → needle <:+: node.chars

namespace Node

theorem includes_of_isInfix {node inner : Node} (within : inner.chars <:+: node.chars) :
    node.Includes inner :=
  fun _ _ found => found.trans within

/-- What stands between braces is mentioned, though it is indented there. -/
theorem includes_of_indented {node inner : Node} {deeper : List Char}
    (indented : Indented inner.chars deeper) (within : deeper <:+: node.chars) :
    node.Includes inner :=
  fun _ noNewline found => (indented.isInfix_of_isInfix noNewline found).trans within

end Node

theorem Expr.exists_of_mem_inSlot {slot : Slot} {exprs : List Expr} {part : Slot × Skeleton}
    (member : part ∈ Expr.inSlot slot exprs) :
    ∃ expr ∈ exprs, part = (slot, expr.skeleton) := by
  induction exprs with
  | nil => cases member
  | cons first rest ih =>
      rcases List.mem_cons.mp member with rfl | member
      · exact ⟨first, List.mem_cons_self .., rfl⟩
      · rcases ih member with ⟨expr, inRest, rfl⟩
        exact ⟨expr, List.mem_cons_of_mem _ inRest, rfl⟩

theorem Expr.exists_of_mem_optionInSlot {slot : Slot} {expr : Option Expr}
    {part : Slot × Skeleton} (member : part ∈ Expr.optionInSlot slot expr) :
    ∃ value, expr = some value ∧ part = (slot, value.skeleton) := by
  cases expr with
  | none => cases member
  | some value => exact ⟨value, rfl, List.mem_singleton.mp member⟩

namespace Expr

theorem infix_between_left (left : List Char) (token : String) (right : List Char) :
    left <:+: between left token right := by
  rw [between, List.append_assoc]
  exact (List.prefix_append _ _).isInfix

theorem infix_between_right (left : List Char) (token : String) (right : List Char) :
    right <:+: between left token right :=
  ((List.suffix_cons ' ' right).trans (List.suffix_append _ _)).isInfix

theorem infix_commaChars {exprs : List Expr} {expr : Expr} (member : expr ∈ exprs) :
    expr.chars <:+: commaChars exprs := by
  rw [commaChars, listChars_eq_map]
  exact Text.infix_joinWith _ (List.mem_map_of_mem member)

theorem infix_initChars (value : Expr) : value.chars <:+: initChars (some value) :=
  (List.suffix_append _ _).isInfix

end Expr

/-- The parts of an expression are expressions that stand in its text as they are. -/
theorem Expr.includes_of_mem_parts (expr : Expr) {part : Slot × Skeleton}
    (member : part ∈ expr.skeleton.parts) :
    ∃ inner : Expr, part.2 = inner.skeleton ∧ inner.chars <:+: expr.chars := by
  cases expr with
  | literal value => cases member
  | ident name => cases member
  | unary op operand =>
      rcases List.mem_singleton.mp member with rfl
      refine ⟨operand, rfl, ?_⟩
      rw [Expr.chars]
      split
      · exact (List.prefix_append _ _).isInfix
      · exact (List.suffix_append _ _).isInfix
  | binary op lhs rhs =>
      simp only [Expr.skeleton, Skeleton.parts_node, List.mem_cons, List.not_mem_nil,
        or_false] at member
      rcases member with rfl | rfl
      · exact ⟨lhs, rfl, Expr.infix_between_left ..⟩
      · exact ⟨rhs, rfl, Expr.infix_between_right ..⟩
  | assign op target value =>
      simp only [Expr.skeleton, Skeleton.parts_node, List.mem_cons, List.not_mem_nil,
        or_false] at member
      rcases member with rfl | rfl
      · exact ⟨target, rfl, Expr.infix_between_left ..⟩
      · exact ⟨value, rfl, Expr.infix_between_right ..⟩
  | cast ty operand =>
      rcases List.mem_singleton.mp member with rfl
      exact ⟨operand, rfl, '(' :: ty.toList ++ [')'], [], by simp [Expr.chars]⟩
  | paren inner =>
      rcases List.mem_singleton.mp member with rfl
      exact ⟨inner, rfl, ['('], [')'], by simp [Expr.chars]⟩
  | invoke callee args =>
      rcases List.mem_cons.mp member with rfl | member
      · exact ⟨callee, rfl, [], '(' :: Expr.commaChars args ++ [')'],
          by simp [Expr.chars, Expr.commaChars]⟩
      · rcases Expr.exists_of_mem_inSlot member with ⟨arg, isArg, rfl⟩
        have within : Expr.commaChars args <:+: (Expr.invoke callee args).chars :=
          ⟨callee.chars ++ ['('], [')'], by simp [Expr.chars, Expr.commaChars]⟩
        exact ⟨arg, rfl, (Expr.infix_commaChars isArg).trans within⟩
  | member target name =>
      rcases List.mem_singleton.mp member with rfl
      exact ⟨target, rfl, (List.prefix_append _ _).isInfix⟩
  | conditional cond thenValue elseValue =>
      simp only [Expr.skeleton, Skeleton.parts_node, List.mem_cons, List.not_mem_nil,
        or_false] at member
      rcases member with rfl | rfl | rfl
      · exact ⟨cond, rfl, (Expr.infix_between_left ..).trans (Expr.infix_between_left ..)⟩
      · exact ⟨thenValue, rfl, (Expr.infix_between_right ..).trans (Expr.infix_between_left ..)⟩
      · exact ⟨elseValue, rfl, Expr.infix_between_right ..⟩

theorem LocalDecl.infix_chars_of_init (decl : LocalDecl) {value : Expr}
    (isInit : decl.init = some value) : value.chars <:+: decl.chars := by
  rw [LocalDecl.chars, isInit]
  exact (Expr.infix_initChars value).trans (List.suffix_append _ _).isInfix

/-- An expression in the start of a counting loop stands in its text as it is. -/
theorem ForInit.includes_of_mem_inSlots {init : Option ForInit} {part : Slot × Skeleton}
    (member : part ∈ ForInit.inSlots init) :
    ∃ inner : Expr, part.2 = inner.skeleton ∧ inner.chars <:+: ForInit.chars init := by
  match init with
  | none => cases member
  | some (.declare decl) =>
      rcases Expr.exists_of_mem_optionInSlot member with ⟨value, isInit, rfl⟩
      exact ⟨value, rfl, decl.infix_chars_of_init isInit⟩
  | some (.run exprs) =>
      rcases Expr.exists_of_mem_inSlot member with ⟨expr, inExprs, rfl⟩
      exact ⟨expr, rfl, Expr.infix_commaChars inExprs⟩

theorem Stmt.exists_of_mem_entries {stmts : List Stmt} {part : Slot × Skeleton}
    (member : part ∈ Stmt.entries stmts) :
    ∃ stmt ∈ stmts, part = (.entry, stmt.skeleton) := by
  induction stmts with
  | nil => cases member
  | cons first rest ih =>
      rcases List.mem_cons.mp member with rfl | member
      · exact ⟨first, List.mem_cons_self .., rfl⟩
      · rcases ih member with ⟨stmt, inRest, rfl⟩
        exact ⟨stmt, List.mem_cons_of_mem _ inRest, rfl⟩

theorem Stmt.infix_linesChars {layout : Layout} {stmts : List Stmt} {stmt : Stmt}
    (member : stmt ∈ stmts) : stmt.chars layout <:+: Stmt.linesChars layout stmts := by
  induction stmts with
  | nil => cases member
  | cons first rest ih =>
      rw [Stmt.linesChars]
      rcases List.mem_cons.mp member with rfl | member
      · exact ⟨layout.indent, '\n' :: Stmt.linesChars layout rest, rfl⟩
      · have within := (List.suffix_cons '\n' (Stmt.linesChars layout rest)).isInfix
        exact ((ih member).trans within).trans (List.suffix_append _ _).isInfix

theorem Layout.infix_braces (layout : Layout) (lines : List Char) :
    lines <:+: layout.braces lines := by
  rw [Layout.braces]
  split
  · next empty =>
      rw [List.isEmpty_iff.mp empty]
      exact List.nil_infix
  · exact ⟨['\x7b', '\n'], layout.indent ++ ['\x7d'], by simp⟩

/-- A statement of a block stands in its text, indented once more. -/
theorem Stmt.includes_of_mem_entries {body : List Stmt} {part : Slot × Skeleton} {node : Node}
    (member : part ∈ Stmt.entries body)
    (within : Stmt.blockChars (bare 0) body <:+: node.chars) :
    ∃ inner : Node, part.2 = inner.skeleton ∧ node.Includes inner := by
  rcases Stmt.exists_of_mem_entries member with ⟨stmt, inBody, rfl⟩
  have inLines : stmt.chars (bare 1) <:+: Stmt.blockChars (bare 0) body :=
    (Stmt.infix_linesChars inBody).trans (Layout.infix_braces _ _)
  exact ⟨.stmt stmt, rfl,
    Node.includes_of_indented (stmt.chars_indented 0) (inLines.trans within)⟩

theorem Stmt.nestedChars_bare (stmt : Stmt) (depth : Nat) :
    stmt.nestedChars (bare depth) = stmt.chars (bare depth) := by
  cases stmt
  rfl

namespace StmtForm

variable (init : Option ForInit) (cond : Option Expr) (update : List Expr)

theorem infix_forHeader_init : ForInit.chars init <:+: forHeader init cond update := by
  simp only [forHeader, List.append_assoc]
  exact (List.prefix_append _ _).isInfix

theorem infix_forHeader_cond (value : Expr) :
    value.chars <:+: forHeader init (some value) update := by
  refine ⟨ForInit.chars init ++ [';', ' '],
    ';' :: (if update.isEmpty then [] else ' ' :: Expr.commaChars update), ?_⟩
  simp [forHeader]

theorem infix_forHeader_update {expr : Expr} (member : expr ∈ update) :
    expr.chars <:+: forHeader init cond update := by
  have filled : update.isEmpty = false := List.isEmpty_eq_false_iff_exists_mem.mpr ⟨expr, member⟩
  simp only [forHeader, filled, Bool.false_eq_true, if_false]
  exact (Expr.infix_commaChars member).trans (((List.suffix_cons ' ' _).trans
    (List.suffix_cons ';' _)).trans (List.suffix_append _ _)).isInfix

end StmtForm

/-- The parts of a statement are mentioned in its text. -/
theorem StmtForm.includes_of_mem_inSlots (trivia : List Comment) (form : StmtForm)
    {part : Slot × Skeleton} (member : part ∈ form.inSlots) :
    ∃ inner : Node, part.2 = inner.skeleton ∧ (Node.stmt ⟨trivia, form⟩).Includes inner := by
  have ofExpr {part : Slot × Skeleton}
      (found : ∃ inner : Expr, part.2 = inner.skeleton ∧ inner.chars <:+: form.chars (bare 0)) :
      ∃ inner : Node, part.2 = inner.skeleton ∧ (Node.stmt ⟨trivia, form⟩).Includes inner := by
    rcases found with ⟨inner, isInner, within⟩
    exact ⟨.expr inner, isInner, Node.includes_of_isInfix within⟩
  have ofStmt {part : Slot × Skeleton} {inner : Stmt} (isInner : part.2 = inner.skeleton)
      (within : inner.nestedChars (bare 0) <:+: form.chars (bare 0)) :
      ∃ inner : Node, part.2 = inner.skeleton ∧ (Node.stmt ⟨trivia, form⟩).Includes inner := by
    rw [Stmt.nestedChars_bare] at within
    exact ⟨.stmt inner, isInner, Node.includes_of_isInfix within⟩
  cases form with
  | block body => exact Stmt.includes_of_mem_entries member List.infix_rfl
  | declare decl =>
      rcases Expr.exists_of_mem_optionInSlot member with ⟨value, isInit, rfl⟩
      have within : decl.chars <:+: (StmtForm.declare decl).chars (bare 0) :=
        (List.prefix_append _ _).isInfix
      exact ofExpr ⟨value, rfl, (decl.infix_chars_of_init isInit).trans within⟩
  | expr value =>
      rcases List.mem_singleton.mp member with rfl
      exact ofExpr ⟨value, rfl, (List.prefix_append _ _).isInfix⟩
  | ifElse cond thenBranch elseBranch =>
      cases elseBranch with
      | none =>
          simp only [inSlots, List.mem_cons, List.not_mem_nil, or_false] at member
          rcases member with rfl | rfl
          · exact ofExpr ⟨cond, rfl, "if (".toList, ") ".toList ++ thenBranch.nestedChars (bare 0),
              by simp⟩
          · exact ofStmt rfl (List.suffix_append _ _).isInfix
      | some elseBranch =>
          simp only [inSlots, List.mem_cons, List.not_mem_nil, or_false] at member
          rcases member with rfl | rfl | rfl
          · exact ofExpr ⟨cond, rfl, "if (".toList,
              ") ".toList ++ thenBranch.nestedChars (bare 0) ++
                " else ".toList ++ elseBranch.nestedChars (bare 0), by simp⟩
          · exact ofStmt rfl ⟨"if (".toList ++ cond.chars ++ ") ".toList,
              " else ".toList ++ elseBranch.nestedChars (bare 0), by simp⟩
          · exact ofStmt rfl (List.suffix_append _ _).isInfix
  | forLoop init cond update body =>
      have header : forHeader init cond update <:+:
          (StmtForm.forLoop init cond update body).chars (bare 0) :=
        ⟨"for (".toList, ") ".toList ++ body.nestedChars (bare 0), by simp⟩
      simp only [inSlots, List.mem_append, List.mem_singleton] at member
      rcases member with ((member | member) | member) | rfl
      · rcases ForInit.includes_of_mem_inSlots member with ⟨inner, isInner, within⟩
        exact ofExpr ⟨inner, isInner, (within.trans (infix_forHeader_init ..)).trans header⟩
      · rcases Expr.exists_of_mem_optionInSlot member with ⟨value, rfl, rfl⟩
        exact ofExpr ⟨value, rfl, (infix_forHeader_cond ..).trans header⟩
      · rcases Expr.exists_of_mem_inSlot member with ⟨expr, inUpdate, rfl⟩
        exact ofExpr ⟨expr, rfl, (infix_forHeader_update _ _ _ inUpdate).trans header⟩
      · exact ofStmt rfl (List.suffix_append _ _).isInfix
  | whileLoop cond body =>
      simp only [inSlots, List.mem_cons, List.not_mem_nil, or_false] at member
      rcases member with rfl | rfl
      · exact ofExpr ⟨cond, rfl, "while (".toList, ") ".toList ++ body.nestedChars (bare 0),
          by simp⟩
      · exact ofStmt rfl (List.suffix_append _ _).isInfix
  | doWhile body cond =>
      simp only [inSlots, List.mem_cons, List.not_mem_nil, or_false] at member
      rcases member with rfl | rfl
      · exact ofStmt rfl ⟨"do ".toList, " while (".toList ++ cond.chars ++ ");".toList, by simp⟩
      · exact ofExpr ⟨cond, rfl, "do ".toList ++ body.nestedChars (bare 0) ++ " while (".toList,
          ");".toList, by simp⟩
  | ret value =>
      rcases Expr.exists_of_mem_optionInSlot member with ⟨value, rfl, rfl⟩
      exact ofExpr ⟨value, rfl, "return ".toList, [';'], by simp⟩
  | brk => cases member
  | cont => cases member
  | empty => cases member

theorem Member.exists_of_mem_entries {members : List Member} {part : Slot × Skeleton}
    (found : part ∈ Member.entries members) :
    ∃ member ∈ members, part = (.entry, member.skeleton) := by
  induction members with
  | nil => cases found
  | cons first rest ih =>
      rcases List.mem_cons.mp found with rfl | found
      · exact ⟨first, List.mem_cons_self .., rfl⟩
      · rcases ih found with ⟨member, inRest, rfl⟩
        exact ⟨member, List.mem_cons_of_mem _ inRest, rfl⟩

theorem Member.infix_linesChars {layout : Layout} {members : List Member} {member : Member}
    (found : member ∈ members) : member.chars layout <:+: Member.linesChars layout members := by
  induction members with
  | nil => cases found
  | cons first rest ih =>
      rw [Member.linesChars]
      rcases List.mem_cons.mp found with rfl | found
      · exact ⟨layout.indent, '\n' :: Member.linesChars layout rest, rfl⟩
      · have within := (List.suffix_cons '\n' (Member.linesChars layout rest)).isInfix
        exact ((ih found).trans within).trans (List.suffix_append _ _).isInfix

/-- The parts of a declaration are mentioned in its text. -/
theorem MemberForm.includes_of_mem_inSlots (trivia : List Comment) (form : MemberForm)
    {part : Slot × Skeleton} (found : part ∈ form.inSlots) :
    ∃ inner : Node, part.2 = inner.skeleton ∧ (Node.member ⟨trivia, form⟩).Includes inner := by
  cases form with
  | classDecl modifiers name members =>
      rcases Member.exists_of_mem_entries found with ⟨member, isMember, rfl⟩
      have inLines : member.chars (bare 1) <:+:
          (bare 0).braces (Member.linesChars (bare 1) members) :=
        (Member.infix_linesChars isMember).trans (Layout.infix_braces _ _)
      have within : (bare 0).braces (Member.linesChars (bare 1) members) <:+:
          (MemberForm.classDecl modifiers name members).chars (bare 0) :=
        ((List.suffix_cons ' ' _).trans (List.suffix_append _ _)).isInfix
      exact ⟨.member member, rfl,
        Node.includes_of_indented (member.chars_indented 0) (inLines.trans within)⟩
  | field decl =>
      rcases Expr.exists_of_mem_optionInSlot found with ⟨value, isInit, rfl⟩
      have inField : value.chars <:+: decl.chars := by
        rw [FieldDecl.chars, isInit]
        refine (Expr.infix_initChars value).trans ?_
        exact (List.suffix_append _ _).isInfix.trans (List.prefix_append _ _).isInfix
      exact ⟨.expr value, rfl, Node.includes_of_isInfix inField⟩
  | method decl =>
      exact Stmt.includes_of_mem_entries found (List.suffix_append _ _).isInfix

/-- Whatever a part of a node mentions without a newline, the node mentions, too. -/
theorem Node.includes_of_mem_parts (node : Node) {part : Slot × Skeleton}
    (member : part ∈ node.skeleton.parts) :
    ∃ inner : Node, part.2 = inner.skeleton ∧ node.Includes inner := by
  cases node with
  | member value =>
      rcases value with ⟨trivia, form⟩
      exact MemberForm.includes_of_mem_inSlots trivia form member
  | stmt value =>
      rcases value with ⟨trivia, form⟩
      exact StmtForm.includes_of_mem_inSlots trivia form member
  | expr value =>
      rcases value.includes_of_mem_parts member with ⟨inner, isInner, within⟩
      exact ⟨.expr inner, isInner, Node.includes_of_isInfix within⟩

end Whittle

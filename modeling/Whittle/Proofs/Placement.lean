import Whittle.Proofs.Indentation

/-!
# Where nodes stand in a text

A node stands in the text of the program as deep as the braces around it make it:
the braces are those of classes, methods and blocks.  Whatever a node mentions
on one line is mentioned at any depth, so the lines of its own text are found in
the text of the program.
-/

namespace Whittle

open Text (indentBy)
open Node (AllObey IsOneLine)

/-! ## Nodes within the program -/

/-- How many of the nodes around a node have braces. -/
def Node.bracesAround (around : List Node) : Nat :=
  around.countP fun node => node.entries?.isSome

/-- All of some nodes stand in a text, each as deep as the braces around it make it. -/
def Node.AllStandIn (text : List Char) (places : List (Node × List Node)) : Prop :=
  ∀ place ∈ places, place.1.charsAt (.bare (Node.bracesAround place.2)) <:+: text

namespace Node

open Outline (nestedInList)

variable {text : List Char}

@[simp]
theorem allStandIn_nestedInList_nil (around : List Node) :
    AllStandIn text (nestedInList around []) := by
  simp [AllStandIn, nestedInList]

@[simp]
theorem allStandIn_nested (around : List Node) (head : Node) (children : List Outline) :
    AllStandIn text ((Outline.node head children).nested around) ↔
      head.charsAt (.bare (bracesAround around)) <:+: text ∧
        AllStandIn text (nestedInList (head :: around) children) := by
  simp [AllStandIn, Outline.nested]

@[simp]
theorem allStandIn_nestedInList_cons (around : List Node) (outline : Outline)
    (rest : List Outline) :
    AllStandIn text (nestedInList around (outline :: rest)) ↔
      AllStandIn text (outline.nested around) ∧ AllStandIn text (nestedInList around rest) := by
  simp only [AllStandIn, nestedInList, List.forall_mem_append]

@[simp]
theorem allStandIn_nestedInList_append (around : List Node) (first second : List Outline) :
    AllStandIn text (nestedInList around (first ++ second)) ↔
      AllStandIn text (nestedInList around first) ∧
        AllStandIn text (nestedInList around second) := by
  induction first with
  | nil => simp
  | cons outline rest ih => simp [ih, and_assoc]

theorem AllStandIn.mono {whole : List Char} {places : List (Node × List Node)}
    (stand : AllStandIn text places) (within : text <:+: whole) : AllStandIn whole places :=
  fun place member => (stand place member).trans within

end Node

open Node (AllStandIn)
open Outline (nestedInList)

mutual

/-- The nodes of an expression stand in its text. -/
theorem Expr.allStandIn_chars (around : List Node) :
    (expr : Expr) → AllStandIn expr.chars (expr.outline.nested around)
  | .literal _ | .ident _ => by simp [Expr.outline, Node.charsAt]
  | .unary op operand => by
      have within : operand.chars <:+: (Expr.unary op operand).chars := by
        rw [Expr.chars]
        split
        · exact (List.prefix_append _ _).isInfix
        · exact (List.suffix_append _ _).isInfix
      simp only [Expr.outline, Node.allStandIn_nested, Node.allStandIn_nestedInList_cons]
      exact ⟨List.infix_rfl, (operand.allStandIn_chars _).mono within,
        Node.allStandIn_nestedInList_nil _⟩
  | .binary op lhs rhs => by
      simp only [Expr.outline, Node.allStandIn_nested, Node.allStandIn_nestedInList_cons]
      exact ⟨List.infix_rfl, (lhs.allStandIn_chars _).mono (infix_between_left ..),
        (rhs.allStandIn_chars _).mono (infix_between_right ..),
        Node.allStandIn_nestedInList_nil _⟩
  | .assign op target value => by
      simp only [Expr.outline, Node.allStandIn_nested, Node.allStandIn_nestedInList_cons]
      exact ⟨List.infix_rfl, (target.allStandIn_chars _).mono (infix_between_left ..),
        (value.allStandIn_chars _).mono (infix_between_right ..),
        Node.allStandIn_nestedInList_nil _⟩
  | .cast ty operand => by
      have within : operand.chars <:+: (Expr.cast ty operand).chars :=
        ⟨'(' :: ty.toList ++ [')'], [], by simp [Expr.chars]⟩
      simp only [Expr.outline, Node.allStandIn_nested, Node.allStandIn_nestedInList_cons]
      exact ⟨List.infix_rfl, (operand.allStandIn_chars _).mono within,
        Node.allStandIn_nestedInList_nil _⟩
  | .paren inner => by
      have within : inner.chars <:+: (Expr.paren inner).chars :=
        ⟨['('], [')'], by simp [Expr.chars]⟩
      simp only [Expr.outline, Node.allStandIn_nested, Node.allStandIn_nestedInList_cons]
      exact ⟨List.infix_rfl, (inner.allStandIn_chars _).mono within,
        Node.allStandIn_nestedInList_nil _⟩
  | .invoke callee args => by
      have calleeWithin : callee.chars <:+: (Expr.invoke callee args).chars :=
        ⟨[], '(' :: Expr.commaChars args ++ [')'], by simp [Expr.chars, Expr.commaChars]⟩
      have argsWithin : Expr.commaChars args <:+: (Expr.invoke callee args).chars :=
        ⟨callee.chars ++ ['('], [')'], by simp [Expr.chars, Expr.commaChars]⟩
      simp only [Expr.outline, Node.allStandIn_nested, Node.allStandIn_nestedInList_cons]
      exact ⟨List.infix_rfl, (callee.allStandIn_chars _).mono calleeWithin,
        Expr.allStandIn_outlines _ args fun _ isArg => (infix_commaChars isArg).trans argsWithin⟩
  | .member target name => by
      have within : target.chars <:+: (Expr.member target name).chars :=
        (List.prefix_append _ _).isInfix
      simp only [Expr.outline, Node.allStandIn_nested, Node.allStandIn_nestedInList_cons]
      exact ⟨List.infix_rfl, (target.allStandIn_chars _).mono within,
        Node.allStandIn_nestedInList_nil _⟩
  | .conditional cond thenValue elseValue => by
      have choice := infix_between_left (between cond.chars "?" thenValue.chars) ":" elseValue.chars
      simp only [Expr.outline, Node.allStandIn_nested, Node.allStandIn_nestedInList_cons]
      exact ⟨List.infix_rfl,
        (cond.allStandIn_chars _).mono ((infix_between_left ..).trans choice),
        (thenValue.allStandIn_chars _).mono ((infix_between_right ..).trans choice),
        (elseValue.allStandIn_chars _).mono (infix_between_right ..),
        Node.allStandIn_nestedInList_nil _⟩

theorem Expr.allStandIn_outlines (around : List Node) {text : List Char} :
    (exprs : List Expr) → (∀ expr ∈ exprs, expr.chars <:+: text) →
      AllStandIn text (nestedInList around (Expr.outlines exprs))
  | [], _ => Node.allStandIn_nestedInList_nil around
  | expr :: rest, within => by
      rw [List.forall_mem_cons] at within
      rw [Expr.outlines, Node.allStandIn_nestedInList_cons]
      exact ⟨(expr.allStandIn_chars around).mono within.1,
        Expr.allStandIn_outlines around rest within.2⟩

end

theorem Expr.allStandIn_optionOutline (around : List Node) {text : List Char} {expr : Option Expr}
    (within : ∀ value, expr = some value → value.chars <:+: text) :
    AllStandIn text (nestedInList around (Expr.optionOutline expr)) := by
  cases expr with
  | none => exact Node.allStandIn_nestedInList_nil around
  | some value =>
      exact Expr.allStandIn_outlines around [value] (by simpa using within value rfl)

/-- The nodes at the start of a counting loop stand in its text. -/
theorem ForInit.allStandIn_outlines (around : List Node) (init : Option ForInit) :
    AllStandIn (ForInit.chars init) (nestedInList around (ForInit.outlines init)) := by
  match init with
  | none => exact Node.allStandIn_nestedInList_nil around
  | some (.declare decl) =>
      exact Expr.allStandIn_optionOutline around fun _ isInit => decl.infix_chars_of_init isInit
  | some (.run exprs) =>
      exact Expr.allStandIn_outlines around exprs fun _ isExpr => Expr.infix_commaChars isExpr

theorem Node.bracesAround_cons (head : Node) (around : List Node) :
    Node.bracesAround (head :: around) =
      Node.bracesAround around + if head.entries?.isSome then 1 else 0 :=
  List.countP_cons

namespace StmtForm

variable (layout : Layout) (cond : Expr) (body : Stmt)

theorem infix_chars_of_cond (elseBranch : Option Stmt) :
    cond.chars <:+: (ifElse cond body elseBranch).chars layout := by
  cases elseBranch with
  | none => exact ⟨"if (".toList, ") ".toList ++ body.nestedChars layout, by simp⟩
  | some elseBranch =>
      exact ⟨"if (".toList, ") ".toList ++ body.nestedChars layout ++ " else ".toList ++
        elseBranch.nestedChars layout, by simp⟩

theorem infix_chars_of_thenBranch (elseBranch : Stmt) :
    body.nestedChars layout <:+: (ifElse cond body (some elseBranch)).chars layout :=
  ⟨"if (".toList ++ cond.chars ++ ") ".toList, " else ".toList ++ elseBranch.nestedChars layout,
    by simp⟩

theorem infix_chars_of_header (init : Option ForInit) (cond : Option Expr) (update : List Expr) :
    forHeader init cond update <:+: (forLoop init cond update body).chars layout :=
  ⟨"for (".toList, ") ".toList ++ body.nestedChars layout, by simp⟩

theorem infix_chars_of_while : cond.chars <:+: (whileLoop cond body).chars layout :=
  ⟨"while (".toList, ") ".toList ++ body.nestedChars layout, by simp⟩

theorem infix_chars_of_doBody : body.nestedChars layout <:+: (doWhile body cond).chars layout :=
  ⟨"do ".toList, " while (".toList ++ cond.chars ++ ");".toList, by simp⟩

theorem infix_chars_of_doWhile : cond.chars <:+: (doWhile body cond).chars layout :=
  ⟨"do ".toList ++ body.nestedChars layout ++ " while (".toList, ");".toList, by simp⟩

end StmtForm

mutual

/-- The nodes of a statement stand in its text. -/
theorem Stmt.allStandIn_chars (around : List Node) :
    (stmt : Stmt) →
      AllStandIn (stmt.chars (.bare (Node.bracesAround around))) (stmt.outline.nested around)
  | ⟨trivia, form⟩ => by
      rw [Stmt.outline, Node.allStandIn_nested]
      exact ⟨List.infix_rfl, form.allStandIn_chars trivia around⟩

theorem Stmt.allStandIn_nestedChars (around : List Node) :
    (stmt : Stmt) →
      AllStandIn (stmt.nestedChars (.bare (Node.bracesAround around))) (stmt.outline.nested around)
  | ⟨trivia, form⟩ => by
      rw [Stmt.outline, Node.allStandIn_nested]
      exact ⟨List.infix_rfl, form.allStandIn_chars trivia around⟩

theorem StmtForm.allStandIn_chars (trivia : List Comment) (around : List Node) :
    (form : StmtForm) →
      AllStandIn (form.chars (.bare (Node.bracesAround around)))
        (nestedInList (.stmt ⟨trivia, form⟩ :: around) form.children)
  | .block body => by
      have ofBody := Stmt.allStandIn_linesChars (.stmt ⟨trivia, .block body⟩ :: around) body
      rw [Node.bracesAround_cons] at ofBody
      exact ofBody.mono (Layout.infix_braces _ _)
  | .declare decl =>
      Expr.allStandIn_optionOutline _ fun _ isInit =>
        (decl.infix_chars_of_init isInit).trans (List.prefix_append _ _).isInfix
  | .expr value => by
      simp only [StmtForm.children, Node.allStandIn_nestedInList_cons]
      exact ⟨(value.allStandIn_chars _).mono (List.prefix_append _ _).isInfix,
        Node.allStandIn_nestedInList_nil _⟩
  | .ifElse cond thenBranch none => by
      simp only [StmtForm.children, Node.allStandIn_nestedInList_cons]
      exact ⟨(cond.allStandIn_chars _).mono (StmtForm.infix_chars_of_cond ..),
        (thenBranch.allStandIn_nestedChars _).mono (List.suffix_append _ _).isInfix,
        Node.allStandIn_nestedInList_nil _⟩
  | .ifElse cond thenBranch (some elseBranch) => by
      simp only [StmtForm.children, Node.allStandIn_nestedInList_cons]
      exact ⟨(cond.allStandIn_chars _).mono (StmtForm.infix_chars_of_cond ..),
        (thenBranch.allStandIn_nestedChars _).mono (StmtForm.infix_chars_of_thenBranch ..),
        (elseBranch.allStandIn_nestedChars _).mono (List.suffix_append _ _).isInfix,
        Node.allStandIn_nestedInList_nil _⟩
  | .forLoop init cond update body => by
      have header := StmtForm.infix_chars_of_header (.bare (Node.bracesAround around)) body init
        cond update
      simp only [StmtForm.children, Node.allStandIn_nestedInList_append,
        Node.allStandIn_nestedInList_cons]
      refine ⟨⟨⟨?_, ?_⟩, ?_⟩, ?_, Node.allStandIn_nestedInList_nil _⟩
      · exact (ForInit.allStandIn_outlines _ init).mono
          ((StmtForm.infix_forHeader_init ..).trans header)
      · refine Expr.allStandIn_optionOutline _ ?_
        rintro value rfl
        exact (StmtForm.infix_forHeader_cond ..).trans header
      · exact Expr.allStandIn_outlines _ update fun _ isUpdate =>
          (StmtForm.infix_forHeader_update _ _ _ isUpdate).trans header
      · exact (body.allStandIn_nestedChars _).mono (List.suffix_append _ _).isInfix
  | .whileLoop cond body => by
      simp only [StmtForm.children, Node.allStandIn_nestedInList_cons]
      exact ⟨(cond.allStandIn_chars _).mono (StmtForm.infix_chars_of_while ..),
        (body.allStandIn_nestedChars _).mono (List.suffix_append _ _).isInfix,
        Node.allStandIn_nestedInList_nil _⟩
  | .doWhile body cond => by
      simp only [StmtForm.children, Node.allStandIn_nestedInList_cons]
      exact ⟨(body.allStandIn_nestedChars _).mono (StmtForm.infix_chars_of_doBody ..),
        (cond.allStandIn_chars _).mono (StmtForm.infix_chars_of_doWhile ..),
        Node.allStandIn_nestedInList_nil _⟩
  | .ret none => Node.allStandIn_nestedInList_nil _
  | .ret (some value) => by
      have within : value.chars <:+:
          (StmtForm.ret (some value)).chars (.bare (Node.bracesAround around)) :=
        ⟨"return ".toList, [';'], by simp⟩
      simp only [StmtForm.children, Expr.optionOutline, Node.allStandIn_nestedInList_cons]
      exact ⟨(value.allStandIn_chars _).mono within, Node.allStandIn_nestedInList_nil _⟩
  | .brk | .cont | .empty => Node.allStandIn_nestedInList_nil _

theorem Stmt.allStandIn_linesChars (around : List Node) :
    (stmts : List Stmt) →
      AllStandIn (Stmt.linesChars (.bare (Node.bracesAround around)) stmts)
        (nestedInList around (Stmt.outlines stmts))
  | [] => Node.allStandIn_nestedInList_nil around
  | stmt :: rest => by
      have later := List.suffix_cons '\n'
        (Stmt.linesChars (.bare (Node.bracesAround around)) rest)
      simp only [Stmt.outlines, Node.allStandIn_nestedInList_cons]
      exact ⟨(stmt.allStandIn_chars around).mono (Stmt.infix_linesChars (List.mem_cons_self ..)),
        (Stmt.allStandIn_linesChars around rest).mono
          (later.trans (List.suffix_append _ _)).isInfix⟩

end

mutual

/-- The nodes of a declaration stand in its text. -/
theorem Member.allStandIn_chars (around : List Node) :
    (member : Member) →
      AllStandIn (member.chars (.bare (Node.bracesAround around))) (member.outline.nested around)
  | ⟨trivia, form⟩ => by
      rw [Member.outline, Node.allStandIn_nested]
      exact ⟨List.infix_rfl, form.allStandIn_chars trivia around⟩

theorem MemberForm.allStandIn_chars (trivia : List Comment) (around : List Node) :
    (form : MemberForm) →
      AllStandIn (form.chars (.bare (Node.bracesAround around)))
        (nestedInList (.member ⟨trivia, form⟩ :: around) form.children)
  | .classDecl modifiers name members => by
      have ofMembers := Member.allStandIn_linesChars
        (.member ⟨trivia, .classDecl modifiers name members⟩ :: around) members
      rw [Node.bracesAround_cons] at ofMembers
      rw [MemberForm.chars_classDecl]
      exact (ofMembers.mono (Layout.infix_braces _ _)).mono (List.suffix_append _ _).isInfix
  | .field decl => by
      refine Expr.allStandIn_optionOutline _ fun value isInit => ?_
      have inField : Expr.initChars (some value) <:+: decl.chars := by
        rw [FieldDecl.chars, isInit]
        exact (List.suffix_append _ _).isInfix.trans (List.prefix_append _ _).isInfix
      exact (Expr.infix_initChars value).trans inField
  | .method decl => by
      have ofBody := Stmt.allStandIn_linesChars (.member ⟨trivia, .method decl⟩ :: around) decl.body
      rw [Node.bracesAround_cons] at ofBody
      exact (ofBody.mono (Layout.infix_braces _ _)).mono (List.suffix_append _ _).isInfix

theorem Member.allStandIn_linesChars (around : List Node) :
    (members : List Member) →
      AllStandIn (Member.linesChars (.bare (Node.bracesAround around)) members)
        (nestedInList around (Member.outlines members))
  | [] => Node.allStandIn_nestedInList_nil around
  | member :: rest => by
      have later := List.suffix_cons '\n'
        (Member.linesChars (.bare (Node.bracesAround around)) rest)
      simp only [Member.outlines, Node.allStandIn_nestedInList_cons]
      exact ⟨(member.allStandIn_chars around).mono
          (Member.infix_linesChars (List.mem_cons_self ..)),
        (Member.allStandIn_linesChars around rest).mono
          (later.trans (List.suffix_append _ _)).isInfix⟩

end

/-! ## Lines of a text -/

theorem Text.splitOn_newline (text : List Char) :
    ∃ first others, List.splitOn '\n' text = first :: others ∧ first <+: text ∧
      (∀ line ∈ first :: others, '\n' ∉ line) ∧ ∀ line ∈ others, line <:+: text := by
  induction text with
  | nil => exact ⟨[], [], rfl, List.nil_prefix, by simp, by simp⟩
  | cons c rest ih =>
      rcases ih with ⟨first, others, split, isPrefix, oneLine, inRest⟩
      have cut : List.splitOn '\n' (c :: rest) =
          if c == '\n' then [] :: List.splitOn '\n' rest
          else (List.splitOn '\n' rest).modifyHead (c :: ·) :=
        List.splitOnP_cons_eq_if_modifyHead c rest
      rw [split] at cut
      by_cases isNewline : c = '\n'
      · refine ⟨[], first :: others, by simpa [isNewline] using cut, List.nil_prefix, ?_, ?_⟩
        · simpa using oneLine
        · rintro line (_ | ⟨_, isOther⟩)
          · exact List.infix_cons isPrefix.isInfix
          · exact List.infix_cons (inRest line isOther)
      · refine ⟨c :: first, others, by simpa [isNewline] using cut, ?_, ?_, ?_⟩
        · exact List.cons_prefix_cons.mpr ⟨rfl, isPrefix⟩
        · rw [List.forall_mem_cons] at oneLine ⊢
          exact ⟨by simpa [eq_comm, isNewline] using oneLine.1, oneLine.2⟩
        · exact fun line isOther => List.infix_cons (inRest line isOther)

/-- What a node mentions without a newline it mentions at any depth. -/
theorem Node.infix_charsAt {node : Node} {needle : List Char} (oneLine : '\n' ∉ needle)
    (found : needle <:+: node.chars) (depth : Nat) : needle <:+: node.charsAt (.bare depth) := by
  induction depth with
  | zero => rwa [node.charsAt_bare_zero]
  | succ depth ih =>
      cases node with
      | member value => exact (value.chars_indented depth).isInfix_of_isInfix oneLine ih
      | stmt value => exact (value.chars_indented depth).isInfix_of_isInfix oneLine ih
      | expr value => exact ih

/-- The lines of a node are found in the text of the program around it. -/
theorem Program.infix_text_of_mem_splitOn (program : Program) {node : Node}
    (member : node ∈ program.nodes) {line : List Char}
    (isLine : line ∈ List.splitOn '\n' node.chars) : line <:+: (program.text false).toList := by
  rcases Text.splitOn_newline node.chars with ⟨first, others, cut, isPrefix, oneLine, inText⟩
  rw [cut] at isLine
  have found : line <:+: node.chars := by
    rcases List.mem_cons.mp isLine with rfl | isOther
    · exact isPrefix.isInfix
    · exact inText line isOther
  have places := Outline.nestedInList_map_fst [] program.outlines
  rw [Program.nodes, ← places] at member
  rcases List.mem_map.mp member with ⟨place, isPlace, rfl⟩
  have stands := Member.allStandIn_linesChars [] program.members place isPlace
  rw [Program.text, String.toList_ofList]
  exact (place.1.infix_charsAt (oneLine line isLine) found _).trans stands

/-- A program is written declaration by declaration, each by itself. -/
theorem Program.toList_text (program : Program) (comments : Bool) :
    (program.text comments).toList =
      program.members.flatMap fun member => (member.text comments).toList ++ ['\n'] := by
  rw [Program.text, String.toList_ofList, Member.linesChars_eq_linesAt, Node.linesAt,
    List.flatMap_map]
  refine List.flatMap_congr fun member _ => ?_
  rw [Member.text, String.toList_ofList]
  rfl

/--
Indentation is compositional.  What is written inside of braces is what is written
alone, with four spaces after each newline for each of the braces, with or without
comments and also where a statement continues a line; constants may hold anything.
No statement or declaration ends with a newline.  So a text is made of those of
its parts, declaration by declaration and block by block.  Without comments every
node stands in the text of the program, as deep as the braces around it make it,
and every line of its own text is there.
-/
theorem indentation_is_compositional :
    (∀ node : Node, AllObey IsOneLine node.outline.nodes → ∀ comments depth,
      node.charsAt ⟨comments, depth⟩ =
        indentBy (4 * depth) (node.charsAt (.outermost comments))) ∧
      (∀ stmt : Stmt, AllObey IsOneLine stmt.outline.nodes → ∀ comments depth,
        stmt.nestedChars ⟨comments, depth⟩ =
          indentBy (4 * depth) (stmt.nestedChars (.outermost comments))) ∧
      (∀ (stmt : Stmt) layout, (stmt.chars layout).getLast? ≠ some '\n') ∧
      (∀ (member : Member) layout, (member.chars layout).getLast? ≠ some '\n') ∧
      (∀ (program : Program) comments,
        (program.text comments).toList =
          program.members.flatMap fun member => (member.text comments).toList ++ ['\n']) ∧
      (∀ (node : Node) entries, AllObey IsOneLine node.outline.nodes →
        node.entries? = some entries → ∀ comments, node.charsAt (.outermost comments) =
          Comment.leading (.outermost comments) node.trivia ++ node.headerChars ++
            Text.inBraces (entries.map (Node.charsAt (.outermost comments)))) ∧
      (∀ node : Node, node.charsAt (.outermost false) = node.text.toList) ∧
      (∀ (program : Program), ∀ place ∈ program.nested,
        place.1.charsAt ⟨false, Node.bracesAround place.2⟩ <:+: (program.text false).toList) ∧
      ∀ (program : Program), ∀ node ∈ program.nodes,
        ∀ line ∈ List.splitOn '\n' node.text.toList, line <:+: (program.text false).toList := by
  have further (comments : Bool) (depth : Nat) :
      (Layout.outermost comments).deeper depth = ⟨comments, depth⟩ := by
    simp [Layout.deeper, Layout.outermost]
  refine ⟨?_, ?_, ?_, ?_, ?_, ?_, ?_, ?_, ?_⟩
  · intro node oneLine comments depth
    rw [Node.indentBy_charsAt oneLine, further]
  · intro stmt oneLine comments depth
    rw [stmt.indentBy_nestedChars _ _ oneLine, further]
  · exact fun stmt layout => (stmt.isClosed_chars layout).getLast?_ne
  · exact fun member layout => (member.isClosed_chars layout).getLast?_ne
  · exact Program.toList_text
  · exact fun node entries oneLine isBraced => Node.charsAt_of_entries? oneLine isBraced
  · intro node
    rw [Node.text, String.toList_ofList]
    exact node.charsAt_bare_zero
  · intro program place isPlace
    rw [Program.text, String.toList_ofList]
    exact Member.allStandIn_linesChars [] program.members place isPlace
  · intro program node member line isLine
    rw [Node.text, String.toList_ofList] at isLine
    exact program.infix_text_of_mem_splitOn member isLine

/-- A loop with comments, a block and a constant that holds a newline. -/
def commentedBlock : Stmt :=
  ⟨[.line "outer"], .whileLoop (.ident "again")
    ⟨[.block "inner"], .block [⟨[.line "deep"], .expr (.literal (.string "first\nsecond"))⟩]⟩⟩

theorem indentation_is_compositional_loop :
    AllObey IsOneLine commentedBlock.outline.nodes ∧
      commentedBlock.chars ⟨true, 2⟩ = indentBy 8 (commentedBlock.chars (.outermost true)) := by
  have oneLine : AllObey IsOneLine commentedBlock.outline.nodes := by decide
  exact ⟨oneLine, indentation_is_compositional.1 (.stmt commentedBlock) oneLine true 2⟩

end Whittle

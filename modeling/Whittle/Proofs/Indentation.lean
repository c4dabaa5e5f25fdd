import Mathlib.Data.List.Basic
import Whittle.Proofs.CandidateCounts
import Whittle.Proofs.Lines
import Whittle.Proofs.NestedText
import Whittle.Proofs.Spelling

/-!
# Indentation

What stands inside of braces is written as if it stood alone, with four spaces
put in after each newline for each of the braces around it.  The only newlines
are those that the layout puts in: constants have them escaped, so no line is
broken unless a name or a comment breaks it.

So a text is made of the texts of its parts, declaration by declaration and
block by block, and the lines of a part are found in the text of the whole.
-/

namespace Whittle

open Text (joinWith)

namespace Text

/-- The text with some more spaces after each newline. -/
def indentBy (width : Nat) (text : List Char) : List Char :=
  text.flatMap fun c => if c = '\n' then '\n' :: List.replicate width ' ' else [c]

section IndentBy

variable (width : Nat)

@[simp]
theorem indentBy_nil : indentBy width [] = [] :=
  rfl

@[simp]
theorem indentBy_append (first second : List Char) :
    indentBy width (first ++ second) = indentBy width first ++ indentBy width second :=
  List.flatMap_append

@[simp]
theorem indentBy_newline (text : List Char) :
    indentBy width ('\n' :: text) = '\n' :: (List.replicate width ' ' ++ indentBy width text) :=
  rfl

theorem indentBy_cons_of_ne {c : Char} (other : c ≠ '\n') (text : List Char) :
    indentBy width (c :: text) = c :: indentBy width text := by
  simp [indentBy, other]

/-- What has no newline is not indented. -/
theorem indentBy_of_not_mem {text : List Char} (oneLine : '\n' ∉ text) :
    indentBy width text = text := by
  induction text with
  | nil => rfl
  | cons c rest ih =>
      rcases List.ne_and_not_mem_of_not_mem_cons oneLine with ⟨other, ofRest⟩
      rw [indentBy_cons_of_ne width (Ne.symm other), ih ofRest]

end IndentBy

end Text

/-- No name in the node and no comment before it has a newline. -/
structure Node.IsOneLine (node : Node) : Prop where
  names : ∀ name ∈ node.label.names, '\n' ∉ name.toList
  comments : ∀ comment ∈ node.trivia, '\n' ∉ comment.body.toList

instance (node : Node) : Decidable node.IsOneLine :=
  decidable_of_iff
    ((∀ name ∈ node.label.names, '\n' ∉ name.toList) ∧
      ∀ comment ∈ node.trivia, '\n' ∉ comment.body.toList)
    ⟨fun both => ⟨both.1, both.2⟩, fun oneLine => ⟨oneLine.names, oneLine.comments⟩⟩

open Node (AllObey IsOneLine)
open Outline (nodesOfList)

/-! ## Lines without newlines -/

namespace Text.Quoted

theorem newline_not_mem_escape (quote c : Char) : '\n' ∉ escape quote c := by
  have code : '\n' ∉ Nat.toDigits 16 c.toNat := newline_not_mem_toDigits (by decide) _
  by_cases isNewline : c = '\n'
  · simp [escape, isNewline]
  · unfold escape
    repeat' split
    all_goals simp [codePoint, code, Ne.symm isNewline]

/-- Quoted text has its newlines escaped. -/
theorem newline_not_mem_string (text : List Char) : '\n' ∉ string text := by
  have escaped := newline_not_mem_escape doubleQuote
  have notQuote : '\n' ≠ doubleQuote := by decide
  simp [string, escaped, notQuote]

theorem newline_not_mem_char (c : Char) : '\n' ∉ char c := by
  have escaped := newline_not_mem_escape singleQuote c
  have notQuote : '\n' ≠ singleQuote := by decide
  simp [char, escaped, notQuote]

end Text.Quoted

theorem Literal.newline_not_mem_chars (value : Literal) : '\n' ∉ value.chars := by
  cases value with
  | int value => exact Decimal.newline_not_mem_ofInt _
  | long value => simpa [Literal.chars] using Decimal.newline_not_mem_ofInt value.toInt
  | double value => exact Decimal.NumberFormat.newline_not_mem_write _ (by decide) (by decide)
  | bool value => cases value <;> decide
  | char value => exact Text.Quoted.newline_not_mem_char value
  | string value => exact Text.Quoted.newline_not_mem_string value.toList
  | null => decide

/-- No newline stands between the pieces of a text, so there is one only if a name has it. -/
theorem Text.isPiecewise_oneLine : Text.IsPiecewise ('\n' ∉ ·) where
  append first second := by simp [first, second]
  fixed allSyntax := fun member => absurd (List.all_eq_true.mp allSyntax '\n' member) (by decide)
  literal := Literal.newline_not_mem_chars
  binary op := by cases op <;> decide
  assign op := by cases op <;> decide

open Text (isPiecewise_oneLine)

/-- An expression is written on one line. -/
theorem Expr.newline_not_mem_chars (expr : Expr)
    (oneLine : AllObey IsOneLine expr.outline.nodes) : '\n' ∉ expr.chars :=
  expr.holds_chars isPiecewise_oneLine (fun _ => IsOneLine.names) oneLine

/-! ## Statements further in -/

open Text (indentBy)

namespace Layout

/-- The layout some braces further in. -/
def deeper (layout : Layout) (braces : Nat) : Layout :=
  { layout with depth := layout.depth + braces }

variable (layout : Layout) (braces : Nat)

@[simp]
theorem deeper_comments : (layout.deeper braces).comments = layout.comments :=
  rfl

theorem inner_deeper : (layout.deeper braces).inner = layout.inner.deeper braces := by
  simp only [deeper, inner, Layout.mk.injEq, true_and]
  omega

theorem indent_deeper :
    (layout.deeper braces).indent = List.replicate (4 * braces) ' ' ++ layout.indent := by
  simp only [indent, deeper, List.replicate_append_replicate]
  congr 1
  omega

theorem newline_not_mem_indent : '\n' ∉ layout.indent := by
  simp [indent]

@[simp]
theorem indentBy_indent (width : Nat) : indentBy width layout.indent = layout.indent :=
  Text.indentBy_of_not_mem width layout.newline_not_mem_indent

/--
Braces around deeper lines.  The last of these ends with a newline, where the
spaces put in are those before the closing brace.
-/
theorem indentBy_braces {lines deeper : List Char}
    (alike : deeper.isEmpty = lines.isEmpty)
    (ofLines : List.replicate (4 * braces) ' ' ++ indentBy (4 * braces) lines =
      deeper ++ List.replicate (4 * braces) ' ') :
    indentBy (4 * braces) (layout.braces lines) = (layout.deeper braces).braces deeper := by
  simp only [Layout.braces, alike]
  split
  · exact Text.indentBy_of_not_mem _ (by decide)
  · have closed : indentBy (4 * braces) ['\x7d'] = ['\x7d'] :=
      Text.indentBy_of_not_mem _ (by decide)
    have opened (text : List Char) :
        indentBy (4 * braces) ('\x7b' :: text) = '\x7b' :: indentBy (4 * braces) text :=
      Text.indentBy_cons_of_ne _ (by decide) _
    calc indentBy (4 * braces) (['\x7b', '\n'] ++ lines ++ layout.indent ++ ['\x7d'])
        = '\x7b' :: '\n' :: ((List.replicate (4 * braces) ' ' ++ indentBy (4 * braces) lines) ++
            layout.indent ++ ['\x7d']) := by
          simp [opened, closed]
      _ = '\x7b' :: '\n' :: (deeper ++ (List.replicate (4 * braces) ' ' ++ layout.indent) ++
            ['\x7d']) := by
          rw [ofLines]
          simp
      _ = ['\x7b', '\n'] ++ deeper ++ (layout.deeper braces).indent ++ ['\x7d'] := by
          rw [indent_deeper]
          rfl

end Layout

namespace Comment

variable {trivia : List Comment} (layout : Layout) (braces : Nat)

theorem newline_not_mem_chars {comment : Comment} (oneLine : '\n' ∉ comment.body.toList) :
    '\n' ∉ comment.chars := by
  cases comment <;> simpa [chars, body] using oneLine

theorem indentBy_leading (oneLine : ∀ comment ∈ trivia, '\n' ∉ comment.body.toList) :
    indentBy (4 * braces) (leading layout trivia) = leading (layout.deeper braces) trivia := by
  cases written : layout.comments with
  | false => simp [leading, written]
  | true =>
      simp only [leading, Layout.deeper_comments, written, if_true, layout.indent_deeper braces]
      induction trivia with
      | nil => rfl
      | cons comment rest ih =>
          rcases List.forall_mem_cons.mp oneLine with ⟨ofFirst, ofRest⟩
          have first := Text.indentBy_of_not_mem (4 * braces) (newline_not_mem_chars ofFirst)
          simp only [List.flatMap_cons, Text.indentBy_append, first, Text.indentBy_newline,
            layout.indentBy_indent, ih ofRest]

theorem indentBy_inlined (oneLine : ∀ comment ∈ trivia, '\n' ∉ comment.body.toList) :
    indentBy (4 * braces) (inlined layout trivia) = inlined (layout.deeper braces) trivia := by
  refine Text.indentBy_of_not_mem _ ?_
  simp only [inlined]
  split
  · simpa [inlineChars] using oneLine
  · exact List.not_mem_nil

end Comment

open Text (indentBy_append indentBy_of_not_mem)

theorem Stmt.isEmpty_linesChars (layout : Layout) (stmts : List Stmt) :
    (Stmt.linesChars layout stmts).isEmpty = stmts.isEmpty := by
  cases stmts <;> simp [Stmt.linesChars]

mutual

/-- A statement some braces further in is what it is by itself, indented. -/
theorem Stmt.indentBy_chars (layout : Layout) (braces : Nat) :
    (stmt : Stmt) → AllObey IsOneLine stmt.outline.nodes →
      indentBy (4 * braces) (stmt.chars layout) = stmt.chars (layout.deeper braces)
  | ⟨trivia, form⟩, oneLine => by
      rcases (Node.allObey_node _ _).mp oneLine with ⟨⟨names, comments⟩, ofForm⟩
      have ofTrivia := Comment.indentBy_leading layout braces comments
      rw [Stmt.chars, indentBy_append, form.indentBy_chars layout braces names ofForm, Stmt.chars]
      exact congrArg (· ++ _) ofTrivia

theorem Stmt.indentBy_nestedChars (layout : Layout) (braces : Nat) :
    (stmt : Stmt) → AllObey IsOneLine stmt.outline.nodes →
      indentBy (4 * braces) (stmt.nestedChars layout) = stmt.nestedChars (layout.deeper braces)
  | ⟨trivia, form⟩, oneLine => by
      rcases (Node.allObey_node _ _).mp oneLine with ⟨⟨names, comments⟩, ofForm⟩
      have ofTrivia := Comment.indentBy_inlined layout braces comments
      rw [Stmt.nestedChars, indentBy_append, form.indentBy_chars layout braces names ofForm,
        Stmt.nestedChars]
      exact congrArg (· ++ _) ofTrivia

theorem StmtForm.indentBy_chars (layout : Layout) (braces : Nat) :
    (form : StmtForm) → (∀ name ∈ form.label.names, '\n' ∉ name.toList) →
      AllObey IsOneLine (nodesOfList form.children) →
      indentBy (4 * braces) (form.chars layout) = form.chars (layout.deeper braces)
  | .block body, _, oneLine => by
      rw [StmtForm.chars_block, StmtForm.chars_block, Layout.inner_deeper]
      have alike : (Stmt.linesChars (layout.inner.deeper braces) body).isEmpty =
          (Stmt.linesChars layout.inner body).isEmpty := by
        rw [Stmt.isEmpty_linesChars, Stmt.isEmpty_linesChars]
      exact layout.indentBy_braces braces alike
        (Stmt.indentBy_linesChars layout.inner braces body oneLine)
  | .declare decl, names, oneLine => by
      have inDecl := LocalDecl.holds_chars isPiecewise_oneLine (fun _ => IsOneLine.names)
        (names decl.ty (by simp [StmtForm.label])) (names decl.name (by simp [StmtForm.label]))
        oneLine
      exact indentBy_of_not_mem _ (by simpa using inDecl)
  | .expr value, _, oneLine => by
      rw [StmtForm.children, Node.allObey_nodesOfList_cons] at oneLine
      exact indentBy_of_not_mem _ (by simpa using value.newline_not_mem_chars oneLine.1)
  | .ifElse cond thenBranch none, _, oneLine => by
      simp only [StmtForm.children, Node.allObey_nodesOfList_cons] at oneLine
      have inCond := cond.newline_not_mem_chars oneLine.1
      have ofThen := thenBranch.indentBy_nestedChars layout braces oneLine.2.1
      have header : '\n' ∉ "if (".toList ++ cond.chars ++ ") ".toList := by simpa using inCond
      rw [StmtForm.chars_ifElse_none, indentBy_append, indentBy_of_not_mem _ header, ofThen,
        StmtForm.chars_ifElse_none]
  | .ifElse cond thenBranch (some elseBranch), _, oneLine => by
      simp only [StmtForm.children, Node.allObey_nodesOfList_cons] at oneLine
      have inCond := cond.newline_not_mem_chars oneLine.1
      have ofThen := thenBranch.indentBy_nestedChars layout braces oneLine.2.1
      have ofElse := elseBranch.indentBy_nestedChars layout braces oneLine.2.2.1
      have header : '\n' ∉ "if (".toList ++ cond.chars ++ ") ".toList := by simpa using inCond
      have between : '\n' ∉ " else ".toList := by decide
      rw [StmtForm.chars_ifElse_some, indentBy_append, indentBy_append, indentBy_append,
        indentBy_of_not_mem _ header, indentBy_of_not_mem _ between, ofThen, ofElse,
        StmtForm.chars_ifElse_some]
  | .forLoop init cond update body, names, oneLine => by
      simp only [StmtForm.children, Node.allObey_nodesOfList_append,
        Node.allObey_nodesOfList_cons] at oneLine
      rcases oneLine with ⟨⟨⟨ofInit, ofCond⟩, ofUpdate⟩, ofBody, _⟩
      have inHeader := StmtForm.holds_forHeader isPiecewise_oneLine (fun _ => IsOneLine.names)
        names ofInit ofCond ofUpdate
      have header :
          '\n' ∉ "for (".toList ++ StmtForm.forHeader init cond update ++ ") ".toList := by
        simpa using inHeader
      rw [StmtForm.chars_forLoop, indentBy_append, indentBy_of_not_mem _ header,
        body.indentBy_nestedChars layout braces ofBody, StmtForm.chars_forLoop]
  | .whileLoop cond body, _, oneLine => by
      simp only [StmtForm.children, Node.allObey_nodesOfList_cons] at oneLine
      have inCond := cond.newline_not_mem_chars oneLine.1
      have header : '\n' ∉ "while (".toList ++ cond.chars ++ ") ".toList := by simpa using inCond
      rw [StmtForm.chars_whileLoop, indentBy_append, indentBy_of_not_mem _ header,
        body.indentBy_nestedChars layout braces oneLine.2.1, StmtForm.chars_whileLoop]
  | .doWhile body cond, _, oneLine => by
      simp only [StmtForm.children, Node.allObey_nodesOfList_cons] at oneLine
      have inCond := cond.newline_not_mem_chars oneLine.2.1
      have start : '\n' ∉ "do ".toList := by decide
      have test : '\n' ∉ " while (".toList := by decide
      have close : '\n' ∉ ");".toList := by decide
      simp only [StmtForm.chars_doWhile, indentBy_append, indentBy_of_not_mem _ start,
        indentBy_of_not_mem _ test, indentBy_of_not_mem _ inCond, indentBy_of_not_mem _ close,
        body.indentBy_nestedChars layout braces oneLine.1]
  | .ret none, _, _ => by
      have word : '\n' ∉ "return;".toList := by decide
      exact indentBy_of_not_mem _ word
  | .ret (some value), _, oneLine => by
      simp only [StmtForm.children, Expr.optionOutline, Node.allObey_nodesOfList_cons] at oneLine
      exact indentBy_of_not_mem _ (by simpa using value.newline_not_mem_chars oneLine.1)
  | .brk, _, _ => by
      have word : '\n' ∉ "break;".toList := by decide
      exact indentBy_of_not_mem _ word
  | .cont, _, _ => by
      have word : '\n' ∉ "continue;".toList := by decide
      exact indentBy_of_not_mem _ word
  | .empty, _, _ => by
      have mark : '\n' ∉ [';'] := by decide
      exact indentBy_of_not_mem _ mark

/-- The lines are indented, too, but for the first spaces, which come before the first newline. -/
theorem Stmt.indentBy_linesChars (layout : Layout) (braces : Nat) :
    (stmts : List Stmt) → AllObey IsOneLine (nodesOfList (Stmt.outlines stmts)) →
      List.replicate (4 * braces) ' ' ++ indentBy (4 * braces) (Stmt.linesChars layout stmts) =
        Stmt.linesChars (layout.deeper braces) stmts ++ List.replicate (4 * braces) ' '
  | [], _ => by simp [Stmt.linesChars]
  | stmt :: rest, oneLine => by
      rw [Stmt.outlines, Node.allObey_nodesOfList_cons] at oneLine
      have first := stmt.indentBy_chars layout braces oneLine.1
      have others := Stmt.indentBy_linesChars layout braces rest oneLine.2
      simp only [Stmt.linesChars, indentBy_append, Text.indentBy_newline, layout.indentBy_indent,
        first, others, layout.indent_deeper braces, List.append_assoc, List.cons_append]

end

/-! ## Declarations further in -/

theorem MethodDecl.chars_eq (layout : Layout) (decl : MethodDecl) :
    decl.chars layout = decl.headerChars ++ (StmtForm.block decl.body).chars layout :=
  rfl

theorem MemberForm.chars_classDecl (layout : Layout) (modifiers : List String) (name : String)
    (members : List Member) :
    (MemberForm.classDecl modifiers name members).chars layout =
      MemberForm.classHeader modifiers name ++
        layout.braces (Member.linesChars layout.inner members) := by
  simp [MemberForm.chars, MemberForm.classHeader]

theorem Member.isEmpty_linesChars (layout : Layout) (members : List Member) :
    (Member.linesChars layout members).isEmpty = members.isEmpty := by
  cases members <;> simp [Member.linesChars]

mutual

/-- A declaration some braces further in is what it is by itself, indented. -/
theorem Member.indentBy_chars (layout : Layout) (braces : Nat) :
    (member : Member) → AllObey IsOneLine member.outline.nodes →
      indentBy (4 * braces) (member.chars layout) = member.chars (layout.deeper braces)
  | ⟨trivia, form⟩, oneLine => by
      rcases (Node.allObey_node _ _).mp oneLine with ⟨⟨names, comments⟩, ofForm⟩
      have ofTrivia := Comment.indentBy_leading layout braces comments
      rw [Member.chars, indentBy_append, form.indentBy_chars layout braces names ofForm,
        Member.chars]
      exact congrArg (· ++ _) ofTrivia

theorem MemberForm.indentBy_chars (layout : Layout) (braces : Nat) :
    (form : MemberForm) → (∀ name ∈ form.label.names, '\n' ∉ name.toList) →
      AllObey IsOneLine (nodesOfList form.children) →
      indentBy (4 * braces) (form.chars layout) = form.chars (layout.deeper braces)
  | .classDecl modifiers name members, names, oneLine => by
      have alike : (Member.linesChars (layout.inner.deeper braces) members).isEmpty =
          (Member.linesChars layout.inner members).isEmpty := by
        rw [Member.isEmpty_linesChars, Member.isEmpty_linesChars]
      have ofMembers := layout.indentBy_braces braces alike
        (Member.indentBy_linesChars layout.inner braces members oneLine)
      rw [MemberForm.chars_classDecl, indentBy_append,
        indentBy_of_not_mem _ (MemberForm.holds_classHeader isPiecewise_oneLine names), ofMembers,
        MemberForm.chars_classDecl, Layout.inner_deeper]
  | .field decl, names, oneLine =>
      indentBy_of_not_mem _ (FieldDecl.holds_chars isPiecewise_oneLine (fun _ => IsOneLine.names)
        names oneLine)
  | .method decl, names, oneLine => by
      have ofBody := (StmtForm.block decl.body).indentBy_chars layout braces
        (by simp [StmtForm.label]) oneLine
      rw [MemberForm.chars, MemberForm.chars, MethodDecl.chars_eq, indentBy_append,
        indentBy_of_not_mem _ (MethodDecl.holds_headerChars isPiecewise_oneLine names), ofBody,
        MethodDecl.chars_eq]

theorem Member.indentBy_linesChars (layout : Layout) (braces : Nat) :
    (members : List Member) → AllObey IsOneLine (nodesOfList (Member.outlines members)) →
      List.replicate (4 * braces) ' ' ++ indentBy (4 * braces) (Member.linesChars layout members) =
        Member.linesChars (layout.deeper braces) members ++ List.replicate (4 * braces) ' '
  | [], _ => by simp [Member.linesChars]
  | member :: rest, oneLine => by
      rw [Member.outlines, Node.allObey_nodesOfList_cons] at oneLine
      have first := member.indentBy_chars layout braces oneLine.1
      have others := Member.indentBy_linesChars layout braces rest oneLine.2
      simp only [Member.linesChars, indentBy_append, Text.indentBy_newline, layout.indentBy_indent,
        first, others, layout.indent_deeper braces, List.append_assoc, List.cons_append]

end

/-! ## Nodes -/

/-- The characters of a node in some layout.  Expressions are the same in all of them. -/
def Node.charsAt (layout : Layout) : Node → List Char
  | .member value => value.chars layout
  | .stmt value => value.chars layout
  | .expr value => value.chars

theorem Node.charsAt_bare_zero (node : Node) : node.charsAt (Layout.bare 0) = node.chars := by
  cases node <;> rfl

/-- A node some braces further in is what it is by itself, indented. -/
theorem Node.indentBy_charsAt {node : Node} (oneLine : AllObey IsOneLine node.outline.nodes)
    (layout : Layout) (braces : Nat) :
    indentBy (4 * braces) (node.charsAt layout) = node.charsAt (layout.deeper braces) := by
  cases node with
  | member value => exact value.indentBy_chars layout braces oneLine
  | stmt value => exact value.indentBy_chars layout braces oneLine
  | expr value => exact indentBy_of_not_mem _ (value.newline_not_mem_chars oneLine)

/-! ## The last character -/

namespace Text

/-- The text ends with what ends a statement or a declaration. -/
def IsClosed (text : List Char) : Prop :=
  ∃ front, text = front ++ [';'] ∨ text = front ++ ['\x7d']

theorem isClosed_semicolon (front : List Char) : IsClosed (front ++ [';']) :=
  ⟨front, .inl rfl⟩

theorem IsClosed.append_left {text : List Char} (closed : IsClosed text) (start : List Char) :
    IsClosed (start ++ text) := by
  rcases closed with ⟨front, rfl | rfl⟩
  · exact ⟨start ++ front, .inl (List.append_assoc ..).symm⟩
  · exact ⟨start ++ front, .inr (List.append_assoc ..).symm⟩

theorem IsClosed.getLast?_ne {text : List Char} (closed : IsClosed text) :
    text.getLast? ≠ some '\n' := by
  rcases closed with ⟨front, rfl | rfl⟩ <;> simp

end Text

open Text (IsClosed isClosed_semicolon)

theorem Layout.isClosed_braces (layout : Layout) (lines : List Char) :
    IsClosed (layout.braces lines) := by
  rw [Layout.braces]
  split
  · exact ⟨['\x7b'], .inr rfl⟩
  · exact ⟨['\x7b', '\n'] ++ lines ++ layout.indent, .inr rfl⟩

mutual

theorem Stmt.isClosed_chars (layout : Layout) : (stmt : Stmt) → IsClosed (stmt.chars layout)
  | ⟨_, form⟩ => (form.isClosed_chars layout).append_left _

theorem Stmt.isClosed_nestedChars (layout : Layout) :
    (stmt : Stmt) → IsClosed (stmt.nestedChars layout)
  | ⟨_, form⟩ => (form.isClosed_chars layout).append_left _

/-- A statement ends with a semicolon or a brace. -/
theorem StmtForm.isClosed_chars (layout : Layout) :
    (form : StmtForm) → IsClosed (form.chars layout)
  | .block _ => layout.isClosed_braces _
  | .declare _ | .expr _ | .ret (some _) => isClosed_semicolon _
  | .ifElse _ thenBranch none => (thenBranch.isClosed_nestedChars layout).append_left _
  | .ifElse _ _ (some elseBranch) => (elseBranch.isClosed_nestedChars layout).append_left _
  | .forLoop _ _ _ body | .whileLoop _ body => (body.isClosed_nestedChars layout).append_left _
  | .doWhile _ _ => (isClosed_semicolon [')']).append_left _
  | .ret none => isClosed_semicolon "return".toList
  | .brk => isClosed_semicolon "break".toList
  | .cont => isClosed_semicolon "continue".toList
  | .empty => isClosed_semicolon []

end

/-- A declaration ends with a semicolon or a brace. -/
theorem MemberForm.isClosed_chars (layout : Layout) (form : MemberForm) :
    IsClosed (form.chars layout) := by
  cases form with
  | classDecl modifiers name members =>
      rw [MemberForm.chars_classDecl]
      exact (layout.isClosed_braces _).append_left _
  | field decl => exact isClosed_semicolon _
  | method decl => exact (layout.isClosed_braces _).append_left _

theorem Member.isClosed_chars (layout : Layout) (member : Member) :
    IsClosed (member.chars layout) := by
  rcases member with ⟨trivia, form⟩
  exact (form.isClosed_chars layout).append_left _

/-! ## Texts made of the texts of their parts -/

/-- Braces around texts that stand alone, each of them on lines of its own. -/
def Text.inBraces (texts : List (List Char)) : List Char :=
  if texts.isEmpty then ['\x7b', '\x7d']
  else
    ['\x7b', '\n'] ++
      (texts.flatMap fun text => "    ".toList ++ indentBy 4 text ++ ['\n']) ++ ['\x7d']

namespace Node

/-- The nodes that stand on lines of their own within the braces of a node, if it has braces. -/
def entries? : Node → Option (List Node)
  | .member ⟨_, .classDecl _ _ members⟩ => some (members.map .member)
  | .member ⟨_, .method decl⟩ => some (decl.body.map .stmt)
  | .stmt ⟨_, .block body⟩ => some (body.map .stmt)
  | _ => none

/-- What stands before the braces of a node, apart from its comments. -/
def headerChars : Node → List Char
  | .member ⟨_, .classDecl modifiers name _⟩ => MemberForm.classHeader modifiers name
  | .member ⟨_, .method decl⟩ => decl.headerChars
  | _ => []

end Node

/-- Nodes one to a line. -/
def Node.linesAt (layout : Layout) (nodes : List Node) : List Char :=
  nodes.flatMap fun node => layout.indent ++ node.charsAt layout ++ ['\n']

theorem Stmt.linesChars_eq_linesAt (layout : Layout) (stmts : List Stmt) :
    Stmt.linesChars layout stmts = Node.linesAt layout (stmts.map Node.stmt) := by
  induction stmts with
  | nil => rfl
  | cons stmt rest ih => simp [Stmt.linesChars, ih, Node.linesAt, Node.charsAt]

theorem Member.linesChars_eq_linesAt (layout : Layout) (members : List Member) :
    Member.linesChars layout members = Node.linesAt layout (members.map Node.member) := by
  induction members with
  | nil => rfl
  | cons member rest ih => simp [Member.linesChars, ih, Node.linesAt, Node.charsAt]

/-- Braces around the lines of some nodes are made of what these are by themselves. -/
theorem Node.braces_linesAt (comments : Bool) {nodes : List Node}
    (oneLine : ∀ node ∈ nodes, AllObey IsOneLine node.outline.nodes) :
    (Layout.outermost comments).braces
        (Node.linesAt (Layout.outermost comments).inner nodes) =
      Text.inBraces (nodes.map (Node.charsAt (.outermost comments))) := by
  have lines : Node.linesAt (Layout.outermost comments).inner nodes =
      (nodes.map (Node.charsAt (.outermost comments))).flatMap fun text =>
        "    ".toList ++ indentBy 4 text ++ ['\n'] := by
    rw [Node.linesAt, List.flatMap_map]
    refine List.flatMap_congr fun node member => ?_
    have further := Node.indentBy_charsAt (oneLine node member) (.outermost comments) 1
    exact congrArg ("    ".toList ++ · ++ ['\n']) further.symm
  rw [lines, Layout.braces, Text.inBraces]
  cases nodes <;> simp [Layout.outermost, Layout.indent]

theorem Stmt.allObey_entries {rule : Node → Prop} {stmts : List Stmt}
    (obey : AllObey rule (nodesOfList (Stmt.outlines stmts))) :
    ∀ node ∈ stmts.map Node.stmt, AllObey rule node.outline.nodes := by
  induction stmts with
  | nil => simp
  | cons stmt rest ih =>
      rw [Stmt.outlines, Node.allObey_nodesOfList_cons] at obey
      rw [List.map_cons, List.forall_mem_cons]
      exact ⟨obey.1, ih obey.2⟩

theorem Member.allObey_entries {rule : Node → Prop} {members : List Member}
    (obey : AllObey rule (nodesOfList (Member.outlines members))) :
    ∀ node ∈ members.map Node.member, AllObey rule node.outline.nodes := by
  induction members with
  | nil => simp
  | cons member rest ih =>
      rw [Member.outlines, Node.allObey_nodesOfList_cons] at obey
      rw [List.map_cons, List.forall_mem_cons]
      exact ⟨obey.1, ih obey.2⟩

/-- The text of a node with braces is made of the texts of the nodes within the braces. -/
theorem Node.charsAt_of_entries? {node : Node} {entries : List Node}
    (oneLine : AllObey IsOneLine node.outline.nodes) (isBraced : node.entries? = some entries)
    (comments : Bool) :
    node.charsAt (.outermost comments) =
      Comment.leading (.outermost comments) node.trivia ++ node.headerChars ++
        Text.inBraces (entries.map (Node.charsAt (.outermost comments))) := by
  match node with
  | .member ⟨trivia, .classDecl modifiers name members⟩ =>
      rcases Option.some.inj isBraced with rfl
      have obey := Member.allObey_entries ((Node.allObey_node _ _).mp oneLine).2
      rw [← Node.braces_linesAt comments obey, ← Member.linesChars_eq_linesAt,
        List.append_assoc]
      exact congrArg (_ ++ ·) (MemberForm.chars_classDecl ..)
  | .member ⟨trivia, .method decl⟩ =>
      rcases Option.some.inj isBraced with rfl
      have obey := Stmt.allObey_entries ((Node.allObey_node _ _).mp oneLine).2
      rw [← Node.braces_linesAt comments obey, ← Stmt.linesChars_eq_linesAt, List.append_assoc]
      rfl
  | .member ⟨trivia, .field decl⟩ => cases isBraced
  | .stmt ⟨trivia, .block body⟩ =>
      rcases Option.some.inj isBraced with rfl
      have obey := Stmt.allObey_entries ((Node.allObey_node _ _).mp oneLine).2
      rw [← Node.braces_linesAt comments obey, ← Stmt.linesChars_eq_linesAt, List.append_assoc]
      rfl
  | .stmt ⟨trivia, .declare _⟩ | .stmt ⟨trivia, .expr _⟩ | .stmt ⟨trivia, .ifElse _ _ _⟩
  | .stmt ⟨trivia, .forLoop _ _ _ _⟩ | .stmt ⟨trivia, .whileLoop _ _⟩
  | .stmt ⟨trivia, .doWhile _ _⟩ | .stmt ⟨trivia, .ret _⟩ | .stmt ⟨trivia, .brk⟩
  | .stmt ⟨trivia, .cont⟩ | .stmt ⟨trivia, .empty⟩ => cases isBraced
  | .expr _ => cases isBraced

end Whittle

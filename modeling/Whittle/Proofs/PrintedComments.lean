import Whittle.Proofs.Indentation
import Whittle.Proofs.Lexemes

/-!
# Comments that stay comments

A comment on a line of its own ends where it is meant to: with the line, or at its
bracket.  Before a statement that continues a line every comment is written
between brackets, so there the text of a comment that was meant to end with the
line must not hold the closing bracket.  It is not looked for, and what stands
after it in the comment becomes part of the program.

Apart from that, what is left of a text without its comments is the text without
comments, up to blank space, wherever the comments stand.
-/

namespace Whittle

open Text (IsLegible Matches MatchesToBlank isLegible_fixed isPlain occursIn)
open Outline (nodesOfList)

/-! ## Rules -/

/-- The comment ends where it is meant to when it stands on a line of its own. -/
def Comment.IsContained : Comment → Prop
  | .line text => '\n' ∉ text.toList
  | .block text => occursIn ['*', '/'] text.toList = false

instance : (comment : Comment) → Decidable comment.IsContained
  | .line text => inferInstanceAs (Decidable ('\n' ∉ text.toList))
  | .block text => inferInstanceAs (Decidable (occursIn ['*', '/'] text.toList = false))

namespace Node

/-- No name in the node holds quotes, slashes or newlines, and the comments before it end. -/
structure IsReadable (node : Node) : Prop where
  names : ∀ name ∈ node.label.names, ∀ c ∈ name.toList, isPlain c = true ∧ c ≠ '\n'
  comments : ∀ comment ∈ node.trivia, comment.IsContained

instance (node : Node) : Decidable node.IsReadable :=
  decidable_of_iff
    ((node.label.names.all fun name => name.toList.all fun c => isPlain c && c != '\n') = true ∧
      ∀ comment ∈ node.trivia, comment.IsContained)
    ⟨fun both => ⟨by simpa using both.1, both.2⟩,
      fun readable => ⟨by simpa using readable.names, readable.comments⟩⟩

/-- The branches of a choice, or the body of a loop. -/
def continuations : Node → List Stmt
  | .stmt ⟨_, .ifElse _ thenBranch none⟩ => [thenBranch]
  | .stmt ⟨_, .ifElse _ thenBranch (some elseBranch)⟩ => [thenBranch, elseBranch]
  | .stmt ⟨_, .forLoop _ _ _ body⟩ => [body]
  | .stmt ⟨_, .whileLoop _ body⟩ => [body]
  | .stmt ⟨_, .doWhile body _⟩ => [body]
  | _ => []

/-- No comment before a branch or a body holds the closing bracket. -/
def IsBracketed (node : Node) : Prop :=
  ∀ stmt ∈ node.continuations, ∀ comment ∈ stmt.trivia,
    occursIn ['*', '/'] comment.body.toList = false

instance (node : Node) : Decidable node.IsBracketed :=
  inferInstanceAs (Decidable (∀ stmt ∈ node.continuations, ∀ comment ∈ stmt.trivia,
    occursIn ['*', '/'] comment.body.toList = false))

/-- Nothing in the node or before it is read in another way than it is meant. -/
def IsLegible (node : Node) : Prop :=
  node.IsReadable ∧ node.IsBracketed

theorem IsLegible.ofName {node : Node} (legible : node.IsLegible) {name : String}
    (member : name ∈ node.label.names) : Text.IsLegible name.toList :=
  Text.isLegible_of_plain fun c inName => (legible.1.names name member c inName).1

end Node

open Node (AllObey)

/-! ## Comments -/

namespace Comment

variable {trivia : List Comment}

theorem read_bracketed {text : List Char} (notClosed : occursIn ['*', '/'] text = false)
    (rest : List Char) :
    Text.read .code ("/* ".toList ++ (text ++ " */".toList ++ rest)) = Text.read .code rest := by
  have start (inside : List Char) :
      Text.read .code ("/* ".toList ++ inside) = Text.read .blockComment inside :=
    rfl
  rw [start, Text.read_blockComment notClosed]

/-- A comment on a line of its own leaves the end of the line. -/
theorem reads_chars_newline {comment : Comment} (contained : comment.IsContained) :
    Text.Reads (comment.chars ++ ['\n']) [⟨'\n', false⟩] := by
  intro after
  cases comment with
  | line text =>
      have inside : '\n' ∉ ' ' :: text.toList := by simpa [IsContained] using contained
      have ending := Text.read_lineComment inside after
      simpa [chars, Text.read] using ending
  | block text =>
      have ending := read_bracketed contained ('\n' :: after)
      simp only [chars, List.append_assoc] at ending ⊢
      exact ending

/-- A comment within a line leaves the space after it. -/
theorem reads_inlineChars {comment : Comment}
    (bracketed : occursIn ['*', '/'] comment.body.toList = false) :
    Text.Reads comment.inlineChars [Text.Lexeme.space] := by
  intro after
  have ending := read_bracketed bracketed (' ' :: after)
  simp only [inlineChars, List.append_assoc] at ending ⊢
  exact ending

theorem matchesToBlank_leading (contained : ∀ comment ∈ trivia, comment.IsContained) (depth : Nat) :
    MatchesToBlank (leading ⟨true, depth⟩ trivia) [] := by
  induction trivia with
  | nil => exact Text.matchesToBlank_nil
  | cons comment rest ih =>
      rcases List.forall_mem_cons.mp contained with ⟨ofFirst, ofRest⟩
      have line := Text.matchesToBlank_of_reads (reads_chars_newline ofFirst) (by decide)
      have spaces := Text.matchesToBlank_of_reads (Text.reads_spaces (4 * depth))
        (Text.isBlank_spaces _)
      have whole := (line.trans spaces).trans (ih ofRest)
      simpa [leading, Layout.indent] using whole

theorem matchesToBlank_inlined
    (bracketed : ∀ comment ∈ trivia, occursIn ['*', '/'] comment.body.toList = false)
    (depth : Nat) : MatchesToBlank (inlined ⟨true, depth⟩ trivia) [] := by
  induction trivia with
  | nil => exact Text.matchesToBlank_nil
  | cons comment rest ih =>
      rcases List.forall_mem_cons.mp bracketed with ⟨ofFirst, ofRest⟩
      have first := Text.matchesToBlank_of_reads (reads_inlineChars ofFirst) (by decide)
      exact first.trans (ih ofRest)

end Comment

/-! ## Pieces of a line -/

/-- What obeys a rule that quotes and slashes break begins no literal and no comment. -/
theorem Text.isPlain_of_obeys {rule : Char → Bool}
    (broken : [Quoted.doubleQuote, Quoted.singleQuote, '/'].all (!rule ·) = true) {c : Char}
    (obeys : rule c = true) : isPlain c = true := by
  have differs (other : Char) (isBroken : rule other = false) : c ≠ other := by
    rintro rfl
    exact absurd obeys (by simp [isBroken])
  simp only [List.all_cons, List.all_nil, Bool.and_true, Bool.and_eq_true,
    Bool.not_eq_true'] at broken
  rcases broken with ⟨double, single, slash⟩
  simp [isPlain, isQuote, differs _ double, differs _ single, differs _ slash]

theorem Text.allowsNumbers_plain : Decimal.AllowsNumbers (isPlain · = true) where
  digit _ isDigit := isPlain_of_obeys (by decide) isDigit
  minus := by decide
  point := by decide
  exponent := by decide

/-- Constants are read as they are meant, whatever strings and characters hold. -/
theorem Literal.isLegible_chars (value : Literal) : IsLegible value.chars := by
  cases value with
  | int value => exact Text.isLegible_of_plain (Text.allowsNumbers_plain.ofInt _)
  | long value =>
      have ofDigits := Text.isLegible_of_plain (Text.allowsNumbers_plain.ofInt value.toInt)
      exact ofDigits.append (isLegible_fixed (by decide))
  | double value =>
      have infinity : "inf".toList.all isPlain = true := by decide
      have notANumber : "NaN".toList.all isPlain = true := by decide
      exact Text.isLegible_of_plain (Text.allowsNumbers_plain.write (List.all_eq_true.mp infinity)
        (List.all_eq_true.mp notANumber) value)
  | bool value => cases value <;> exact isLegible_fixed (by decide)
  | char value => exact Text.Quoted.isLegible_char value
  | string value => exact Text.Quoted.isLegible_string value.toList
  | null => exact isLegible_fixed (by decide)

/-- What is written of legible names is legible; a slash is so because of the blank after it. -/
theorem Text.isPiecewise_legible : Text.IsPiecewise IsLegible where
  append := IsLegible.append
  fixed allSyntax := isLegible_of_plain fun c member =>
    isPlain_of_obeys (by decide) (List.all_eq_true.mp allSyntax c member)
  literal := Literal.isLegible_chars
  binary op := by cases op <;> exact isLegible_of_reads (fun _ => rfl)
  assign op := by cases op <;> exact isLegible_of_reads (fun _ => rfl)

open Text (isPiecewise_legible)

/-- Expressions are read as they are meant. -/
theorem Expr.isLegible_chars (expr : Expr) (legible : AllObey Node.IsLegible expr.outline.nodes) :
    IsLegible expr.chars :=
  expr.holds_chars isPiecewise_legible (fun _ => Node.IsLegible.ofName) legible

/-! ## Statements -/

/-- Braces around lines with comments, and around the lines without. -/
theorem Layout.matches_braces (depth : Nat) {commented lines : List Char}
    (alike : commented.isEmpty = lines.isEmpty) (ofLines : MatchesToBlank commented lines) :
    Matches (Layout.braces ⟨true, depth⟩ commented) (Layout.braces ⟨false, depth⟩ lines) := by
  have opening : MatchesToBlank ['\x7b', '\n'] ['\x7b', '\n'] := by
    have brace : IsLegible ['\x7b'] := isLegible_fixed (by decide)
    exact brace.matches.append_blank (.inr rfl)
  have closing : IsLegible ['\x7d'] := isLegible_fixed (by decide)
  have inner := (opening.trans ofLines).trans (Text.matchesToBlank_spaces (4 * depth))
  simp only [Layout.braces, Layout.indent, alike]
  split
  · have fixed : IsLegible ['\x7b', '\x7d'] := isLegible_fixed (by decide)
    exact fixed.matches
  · exact inner.matches.append_legible closing

mutual

/-- A statement is read as if it had no comments. -/
theorem Stmt.matches_chars (depth : Nat) :
    (stmt : Stmt) → AllObey Node.IsLegible stmt.outline.nodes →
      Matches (stmt.chars ⟨true, depth⟩) (stmt.chars ⟨false, depth⟩)
  | ⟨trivia, form⟩, legible => by
      rcases (Node.allObey_node _ _).mp legible with ⟨ofNode, ofForm⟩
      exact (Comment.matchesToBlank_leading ofNode.1.comments depth).append
        (form.matches_chars depth ofNode ofForm)

/-- A statement that continues a line is read so, too, if no comment before it closes itself. -/
theorem Stmt.matches_nestedChars (depth : Nat) :
    (stmt : Stmt) →
      (∀ comment ∈ stmt.trivia, occursIn ['*', '/'] comment.body.toList = false) →
      AllObey Node.IsLegible stmt.outline.nodes →
      Matches (stmt.nestedChars ⟨true, depth⟩) (stmt.nestedChars ⟨false, depth⟩)
  | ⟨trivia, form⟩, bracketed, legible => by
      rcases (Node.allObey_node _ _).mp legible with ⟨ofNode, ofForm⟩
      exact (Comment.matchesToBlank_inlined bracketed depth).append
        (form.matches_chars depth ofNode ofForm)

theorem StmtForm.matches_chars (depth : Nat) {trivia : List Comment} :
    (form : StmtForm) → (Node.stmt ⟨trivia, form⟩).IsLegible →
      AllObey Node.IsLegible (nodesOfList form.children) →
      Matches (form.chars ⟨true, depth⟩) (form.chars ⟨false, depth⟩)
  | .block body, _, legible => by
      have alike : (Stmt.linesChars ⟨true, depth + 1⟩ body).isEmpty =
          (Stmt.linesChars ⟨false, depth + 1⟩ body).isEmpty := by
        rw [Stmt.isEmpty_linesChars, Stmt.isEmpty_linesChars]
      exact Layout.matches_braces depth alike
        (Stmt.matchesToBlank_linesChars (depth + 1) body legible)
  | .declare decl, ofNode, legible => by
      have ofDecl := LocalDecl.holds_chars isPiecewise_legible
        (fun _ => Node.IsLegible.ofName) (ofNode.ofName (by simp [Node.label, StmtForm.label]))
        (ofNode.ofName (by simp [Node.label, StmtForm.label])) legible
      exact (ofDecl.append isPiecewise_legible.semicolon).matches
  | .expr value, _, legible => by
      have ofValue := value.isLegible_chars ((Node.allObey_nodesOfList_cons _ _).mp legible).1
      exact (ofValue.append isPiecewise_legible.semicolon).matches
  | .ifElse cond thenBranch none, ofNode, legible => by
      simp only [StmtForm.children, Node.allObey_nodesOfList_cons] at legible
      have start : IsLegible "if (".toList := isLegible_fixed (by decide)
      have header := (start.append (cond.isLegible_chars legible.1)).append
        isPiecewise_legible.closing
      have ofThen := thenBranch.matches_nestedChars depth
        (ofNode.2 thenBranch (by simp [Node.continuations])) legible.2.1
      simpa using (header.matches.append_blank (.inl rfl)).append ofThen
  | .ifElse cond thenBranch (some elseBranch), ofNode, legible => by
      simp only [StmtForm.children, Node.allObey_nodesOfList_cons] at legible
      have start : IsLegible "if (".toList := isLegible_fixed (by decide)
      have word : IsLegible " else".toList := isLegible_fixed (by decide)
      have header := (start.append (cond.isLegible_chars legible.1)).append
        isPiecewise_legible.closing
      have ofThen := thenBranch.matches_nestedChars depth
        (ofNode.2 thenBranch (by simp [Node.continuations])) legible.2.1
      have ofElse := elseBranch.matches_nestedChars depth
        (ofNode.2 elseBranch (by simp [Node.continuations])) legible.2.2.1
      have choice := (header.matches.append_blank (.inl rfl)).append ofThen
      simpa using ((choice.append_legible word).append_blank (.inl rfl)).append ofElse
  | .forLoop init cond update body, ofNode, legible => by
      simp only [StmtForm.children, Node.allObey_nodesOfList_append,
        Node.allObey_nodesOfList_cons] at legible
      rcases legible with ⟨⟨⟨ofInit, ofCond⟩, ofUpdate⟩, ofBody, _⟩
      have start : IsLegible "for (".toList := isLegible_fixed (by decide)
      have inside := StmtForm.holds_forHeader isPiecewise_legible
        (fun _ => Node.IsLegible.ofName) (fun _ => ofNode.ofName) ofInit ofCond ofUpdate
      have header := (start.append inside).append isPiecewise_legible.closing
      have ofStmt := body.matches_nestedChars depth
        (ofNode.2 body (by simp [Node.continuations])) ofBody
      simpa using (header.matches.append_blank (.inl rfl)).append ofStmt
  | .whileLoop cond body, ofNode, legible => by
      simp only [StmtForm.children, Node.allObey_nodesOfList_cons] at legible
      have start : IsLegible "while (".toList := isLegible_fixed (by decide)
      have header := (start.append (cond.isLegible_chars legible.1)).append
        isPiecewise_legible.closing
      have ofBody := body.matches_nestedChars depth
        (ofNode.2 body (by simp [Node.continuations])) legible.2.1
      simpa using (header.matches.append_blank (.inl rfl)).append ofBody
  | .doWhile body cond, ofNode, legible => by
      simp only [StmtForm.children, Node.allObey_nodesOfList_cons] at legible
      have start : IsLegible "do".toList := isLegible_fixed (by decide)
      have word : IsLegible " while (".toList := isLegible_fixed (by decide)
      have ending : IsLegible ");".toList := isLegible_fixed (by decide)
      have test := (word.append (cond.isLegible_chars legible.2.1)).append ending
      have ofBody := body.matches_nestedChars depth
        (ofNode.2 body (by simp [Node.continuations])) legible.1
      simpa using ((start.matches.append_blank (.inl rfl)).append ofBody).append_legible test
  | .ret none, _, _ => by
      have word : IsLegible "return;".toList := isLegible_fixed (by decide)
      exact word.matches
  | .ret (some value), _, legible => by
      simp only [StmtForm.children, Expr.optionOutline, Node.allObey_nodesOfList_cons] at legible
      have word : IsLegible "return ".toList := isLegible_fixed (by decide)
      have result := word.append (value.isLegible_chars legible.1)
      exact (result.append isPiecewise_legible.semicolon).matches
  | .brk, _, _ => by
      have word : IsLegible "break;".toList := isLegible_fixed (by decide)
      exact word.matches
  | .cont, _, _ => by
      have word : IsLegible "continue;".toList := isLegible_fixed (by decide)
      exact word.matches
  | .empty, _, _ => isPiecewise_legible.semicolon.matches

/-- Statements one to a line are read as if they had no comments. -/
theorem Stmt.matchesToBlank_linesChars (depth : Nat) :
    (stmts : List Stmt) → AllObey Node.IsLegible (nodesOfList (Stmt.outlines stmts)) →
      MatchesToBlank (Stmt.linesChars ⟨true, depth⟩ stmts) (Stmt.linesChars ⟨false, depth⟩ stmts)
  | [], _ => Text.matchesToBlank_nil
  | stmt :: rest, legible => by
      rw [Stmt.outlines, Node.allObey_nodesOfList_cons] at legible
      have line := ((Text.matchesToBlank_spaces (4 * depth)).append
        (stmt.matches_chars depth legible.1)).append_blank (.inr rfl)
      have lines := line.trans (Stmt.matchesToBlank_linesChars depth rest legible.2)
      simpa [Stmt.linesChars, Layout.indent] using lines

end

/-! ## Declarations -/

theorem MethodDecl.matches_headerChars {decl : MethodDecl}
    (names : ∀ name ∈ (MemberForm.method decl).label.names, IsLegible name.toList) :
    MatchesToBlank decl.headerChars decl.headerChars := by
  rcases MethodDecl.headerChars_eq isPiecewise_legible names with ⟨signature, legible, same⟩
  rw [same]
  exact legible.matches.append_blank (.inl rfl)

theorem MemberForm.matches_classHeader {modifiers : List String} {name : String}
    (names : ∀ word ∈ modifiers ++ [name], IsLegible word.toList) :
    MatchesToBlank (MemberForm.classHeader modifiers name)
      (MemberForm.classHeader modifiers name) := by
  rcases MemberForm.classHeader_eq isPiecewise_legible names with ⟨signature, legible, same⟩
  rw [same]
  exact legible.matches.append_blank (.inl rfl)

mutual

/-- A declaration is read as if it had no comments. -/
theorem Member.matches_chars (depth : Nat) :
    (member : Member) → AllObey Node.IsLegible member.outline.nodes →
      Matches (member.chars ⟨true, depth⟩) (member.chars ⟨false, depth⟩)
  | ⟨trivia, form⟩, legible => by
      rcases (Node.allObey_node _ _).mp legible with ⟨ofNode, ofForm⟩
      exact (Comment.matchesToBlank_leading ofNode.1.comments depth).append
        (form.matches_chars depth (fun _ member => ofNode.ofName member) ofForm)

theorem MemberForm.matches_chars (depth : Nat) :
    (form : MemberForm) → (∀ name ∈ form.label.names, IsLegible name.toList) →
      AllObey Node.IsLegible (nodesOfList form.children) →
      Matches (form.chars ⟨true, depth⟩) (form.chars ⟨false, depth⟩)
  | .classDecl modifiers name members, names, legible => by
      have alike : (Member.linesChars ⟨true, depth + 1⟩ members).isEmpty =
          (Member.linesChars ⟨false, depth + 1⟩ members).isEmpty := by
        rw [Member.isEmpty_linesChars, Member.isEmpty_linesChars]
      have inBraces := Layout.matches_braces depth alike
        (Member.matchesToBlank_linesChars (depth + 1) members legible)
      rw [MemberForm.chars_classDecl, MemberForm.chars_classDecl]
      exact (MemberForm.matches_classHeader names).append inBraces
  | .field decl, names, legible => by
      have ofField := FieldDecl.holds_chars isPiecewise_legible (fun _ => Node.IsLegible.ofName)
        names legible
      exact ofField.matches
  | .method decl, names, legible => by
      have ofBody := Layout.matches_braces depth
        (by rw [Stmt.isEmpty_linesChars, Stmt.isEmpty_linesChars])
        (Stmt.matchesToBlank_linesChars (depth + 1) decl.body legible)
      exact (MethodDecl.matches_headerChars names).append ofBody

/-- Declarations one to a line are read as if they had no comments. -/
theorem Member.matchesToBlank_linesChars (depth : Nat) :
    (members : List Member) → AllObey Node.IsLegible (nodesOfList (Member.outlines members)) →
      MatchesToBlank (Member.linesChars ⟨true, depth⟩ members)
        (Member.linesChars ⟨false, depth⟩ members)
  | [], _ => Text.matchesToBlank_nil
  | member :: rest, legible => by
      rw [Member.outlines, Node.allObey_nodesOfList_cons] at legible
      have line := ((Text.matchesToBlank_spaces (4 * depth)).append
        (member.matches_chars depth legible.1)).append_blank (.inr rfl)
      have lines := line.trans (Member.matchesToBlank_linesChars depth rest legible.2)
      simpa [Member.linesChars, Layout.indent] using lines

end

/-! ## Programs -/

namespace Program

/--
Comments never change the program.  Let no name hold quotes, slashes or newlines, no
comment that ends with its line a newline, and no other comment its closing bracket,
and let no comment before a branch or a body hold the closing bracket, either.  Then
what a compiler reads of the text is the text without comments, up to blank space
outside of literals, wherever the comments stand.
-/
theorem comments_stay_comments (program : Program)
    (readable : AllObey Node.IsReadable program.nodes)
    (bracketed : AllObey Node.IsBracketed program.nodes) :
    Text.code (program.text true).toList = Text.code (program.text false).toList ∧
      (Text.lexemes (program.text false).toList).map Text.Lexeme.char =
        (program.text false).toList := by
  have legible : AllObey Node.IsLegible program.nodes :=
    fun node member => ⟨readable node member, bracketed node member⟩
  rw [Program.text, Program.text, String.toList_ofList, String.toList_ofList]
  exact (Member.matchesToBlank_linesChars 0 program.members legible).matches.code_eq

/-- A choice with a comment before its branch that was meant to end with the line. -/
def commentedBranch (text : String) : Program :=
  ⟨[⟨[], .method ⟨[], "void", "f", [], [⟨[.line "quotes \" and // slashes"],
    .ifElse (.literal (.string "/* text */"))
      ⟨[.line text], .expr (.invoke (.ident "M") [])⟩ none⟩]⟩⟩]⟩

theorem comments_stay_comments_branch :
    AllObey Node.IsReadable (commentedBranch "branch").nodes ∧
      AllObey Node.IsBracketed (commentedBranch "branch").nodes ∧
        Text.code ((commentedBranch "branch").text true).toList =
          Text.code ((commentedBranch "branch").text false).toList := by
  have readable : AllObey Node.IsReadable (commentedBranch "branch").nodes := by decide
  have bracketed : AllObey Node.IsBracketed (commentedBranch "branch").nodes := by decide
  exact ⟨readable, bracketed, (comments_stay_comments _ readable bracketed).1⟩

/-- A bracket in a comment that was meant to end with its line turns its rest into code. -/
theorem comments_become_code :
    AllObey Node.IsReadable (commentedBranch "*/ evil(); /*").nodes ∧
      Text.code ((commentedBranch "*/ evil(); /*").text true).toList ≠
        Text.code ((commentedBranch "*/ evil(); /*").text false).toList := by
  refine ⟨by decide, ?_⟩
  rw [Program.text, Program.text, String.toList_ofList, String.toList_ofList]
  decide

end Program

end Whittle

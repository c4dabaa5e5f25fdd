import Whittle.Program.Render
import Whittle.Proofs.Names

/-!
# What is spelled out within a line

Expressions, declarations of variables and the heads of loops, fields, methods and
classes are made of names, constants and fixed syntax.  A property of texts that
goes from the pieces to the whole, and that constants and the fixed syntax have,
is therefore a property of all of these as soon as the names have it.
-/

namespace Whittle

open Text (joinWith)
open Outline (nodesOfList)
open Node (AllObey)

/-- A character that the syntax puts between names and constants; slashes are treated apart. -/
def Text.isSyntax (c : Char) : Bool :=
  c.isAlpha || "(),.;:?=!~+- ".toList.contains c

/-- A property that a text has if its pieces have it, and that all pieces but names have. -/
structure Text.IsPiecewise (holds : List Char → Prop) : Prop where
  append {first second : List Char} : holds first → holds second → holds (first ++ second)
  fixed {text : List Char} : text.all isSyntax = true → holds text
  literal (value : Literal) : holds value.chars
  binary (op : BinaryOp) : holds (' ' :: op.token.toList ++ [' '])
  assign (op : AssignOp) : holds (' ' :: op.token.toList ++ [' '])

/-- What stands before the body of a method. -/
def MethodDecl.headerChars (decl : MethodDecl) : List Char :=
  Member.modifierChars decl.modifiers ++ decl.ret.toList ++ ' ' :: decl.name.toList ++
    '(' :: joinWith [',', ' '] (decl.params.map Param.chars) ++ ") ".toList

/-- What stands before the members of a class. -/
def MemberForm.classHeader (modifiers : List String) (name : String) : List Char :=
  Member.modifierChars modifiers ++ "class ".toList ++ name.toList ++ [' ']

theorem UnaryOp.all_isSyntax_token (op : UnaryOp) : op.token.toList.all Text.isSyntax = true := by
  cases op <;> decide

namespace Text.IsPiecewise

variable {holds : List Char → Prop} (piecewise : IsPiecewise holds)

include piecewise

theorem nil : holds [] :=
  piecewise.fixed rfl

/-- The items of a list with commas between them. -/
theorem list {items : List (List Char)} (ofItems : ∀ item ∈ items, holds item) :
    holds (joinWith [',', ' '] items) := by
  have separator : holds [',', ' '] := piecewise.fixed (by decide)
  induction items with
  | nil => exact piecewise.nil
  | cons item rest ih =>
      rcases List.forall_mem_cons.mp ofItems with ⟨ofItem, ofRest⟩
      cases rest with
      | nil => exact ofItem
      | cons next rest =>
          exact piecewise.append (piecewise.append ofItem separator) (ih ofRest)

theorem opening : holds ['('] :=
  piecewise.fixed (by decide)

theorem closing : holds [')'] :=
  piecewise.fixed (by decide)

theorem semicolon : holds [';'] :=
  piecewise.fixed (by decide)

theorem space : holds [' '] :=
  piecewise.fixed (by decide)

theorem between {left right : List Char} {token : String} (ofLeft : holds left)
    (ofToken : holds (' ' :: token.toList ++ [' '])) (ofRight : holds right) :
    holds (Expr.between left token right) := by
  have parts := piecewise.append (piecewise.append ofLeft ofToken) ofRight
  simpa [Expr.between] using parts

end Text.IsPiecewise

/-! ## Expressions -/

section Names

variable {holds : List Char → Prop} (piecewise : Text.IsPiecewise holds) {rule : Node → Prop}
  (ofNames : ∀ node, rule node → ∀ name ∈ node.label.names, holds name.toList)

mutual

theorem Expr.holds_chars (piecewise : Text.IsPiecewise holds)
    (ofNames : ∀ node, rule node → ∀ name ∈ node.label.names, holds name.toList) :
    (expr : Expr) → AllObey rule expr.outline.nodes → holds expr.chars
  | .literal value, _ => piecewise.literal value
  | .ident name, obey => by
      rw [Expr.outline, Node.allObey_node] at obey
      exact ofNames _ obey.1 name (by simp [Node.label, Expr.label])
  | .unary op operand, obey => by
      rw [Expr.outline, Node.allObey_node, Node.allObey_nodesOfList_cons] at obey
      have ofOperand := operand.holds_chars piecewise ofNames obey.2.1
      have ofToken := piecewise.fixed op.all_isSyntax_token
      rw [Expr.chars]
      split
      · exact piecewise.append ofOperand ofToken
      · exact piecewise.append ofToken ofOperand
  | .binary op lhs rhs, obey => by
      simp only [Expr.outline, Node.allObey_node, Node.allObey_nodesOfList_cons] at obey
      exact piecewise.between (lhs.holds_chars piecewise ofNames obey.2.1) (piecewise.binary op)
        (rhs.holds_chars piecewise ofNames obey.2.2.1)
  | .assign op target value, obey => by
      simp only [Expr.outline, Node.allObey_node, Node.allObey_nodesOfList_cons] at obey
      exact piecewise.between (target.holds_chars piecewise ofNames obey.2.1)
        (piecewise.assign op) (value.holds_chars piecewise ofNames obey.2.2.1)
  | .cast ty operand, obey => by
      rw [Expr.outline, Node.allObey_node, Node.allObey_nodesOfList_cons] at obey
      have ofOperand := operand.holds_chars piecewise ofNames obey.2.1
      have ofType := ofNames _ obey.1 ty (by simp [Node.label, Expr.label])
      have bracketed := piecewise.append (piecewise.append piecewise.opening ofType)
        piecewise.closing
      simpa [Expr.chars] using piecewise.append bracketed ofOperand
  | .paren inner, obey => by
      rw [Expr.outline, Node.allObey_node, Node.allObey_nodesOfList_cons] at obey
      have ofInner := inner.holds_chars piecewise ofNames obey.2.1
      exact piecewise.append (piecewise.append piecewise.opening ofInner) piecewise.closing
  | .invoke callee args, obey => by
      rw [Expr.outline, Node.allObey_node, Node.allObey_nodesOfList_cons] at obey
      have ofCallee := callee.holds_chars piecewise ofNames obey.2.1
      have ofArgs := piecewise.list (Expr.holds_listChars piecewise ofNames args obey.2.2)
      have start := piecewise.append ofCallee piecewise.opening
      simpa [Expr.chars] using piecewise.append (piecewise.append start ofArgs) piecewise.closing
  | .member target name, obey => by
      rw [Expr.outline, Node.allObey_node, Node.allObey_nodesOfList_cons] at obey
      have ofTarget := target.holds_chars piecewise ofNames obey.2.1
      have ofName := ofNames _ obey.1 name (by simp [Node.label, Expr.label])
      have point : holds ['.'] := piecewise.fixed (by decide)
      simpa [Expr.chars] using piecewise.append (piecewise.append ofTarget point) ofName
  | .conditional cond thenValue elseValue, obey => by
      simp only [Expr.outline, Node.allObey_node, Node.allObey_nodesOfList_cons] at obey
      rcases obey with ⟨_, ofCond, ofThen, ofElse, _⟩
      have question : holds (' ' :: "?".toList ++ [' ']) := piecewise.fixed (by decide)
      have colon : holds (' ' :: ":".toList ++ [' ']) := piecewise.fixed (by decide)
      have choice := piecewise.between (cond.holds_chars piecewise ofNames ofCond) question
        (thenValue.holds_chars piecewise ofNames ofThen)
      exact piecewise.between choice colon (elseValue.holds_chars piecewise ofNames ofElse)

theorem Expr.holds_listChars (piecewise : Text.IsPiecewise holds)
    (ofNames : ∀ node, rule node → ∀ name ∈ node.label.names, holds name.toList) :
    (exprs : List Expr) → AllObey rule (nodesOfList (Expr.outlines exprs)) →
      ∀ item ∈ Expr.listChars exprs, holds item
  | [], _ => by simp [Expr.listChars]
  | expr :: rest, obey => by
      rw [Expr.outlines, Node.allObey_nodesOfList_cons] at obey
      rw [Expr.listChars, List.forall_mem_cons]
      exact ⟨expr.holds_chars piecewise ofNames obey.1,
        Expr.holds_listChars piecewise ofNames rest obey.2⟩

end

include piecewise ofNames

theorem Expr.holds_commaChars {exprs : List Expr}
    (obey : AllObey rule (nodesOfList (Expr.outlines exprs))) : holds (Expr.commaChars exprs) :=
  piecewise.list (Expr.holds_listChars piecewise ofNames exprs obey)

theorem Expr.holds_initChars {init : Option Expr}
    (obey : AllObey rule (nodesOfList (Expr.optionOutline init))) :
    holds (Expr.initChars init) := by
  cases init with
  | none => exact piecewise.nil
  | some value =>
      have start : holds " = ".toList := piecewise.fixed (by decide)
      have ofValue := value.holds_chars piecewise ofNames
        ((Node.allObey_nodesOfList_cons _ _).mp obey).1
      exact piecewise.append start ofValue

/-! ## Heads of statements -/

theorem LocalDecl.holds_chars {decl : LocalDecl} (ofType : holds decl.ty.toList)
    (ofName : holds decl.name.toList)
    (obey : AllObey rule (nodesOfList (Expr.optionOutline decl.init))) : holds decl.chars := by
  have ofInit := Expr.holds_initChars piecewise ofNames obey
  have declared := piecewise.append (piecewise.append ofType piecewise.space) ofName
  simpa [LocalDecl.chars] using piecewise.append declared ofInit

/-- The start, the condition and the updates of a counting loop. -/
theorem StmtForm.holds_forHeader {init : Option ForInit} {cond : Option Expr} {update : List Expr}
    (names : ∀ name ∈ (Label.forLoop (ForInit.declared? init)).names, holds name.toList)
    (ofInit : AllObey rule (nodesOfList (ForInit.outlines init)))
    (ofCond : AllObey rule (nodesOfList (Expr.optionOutline cond)))
    (ofUpdate : AllObey rule (nodesOfList (Expr.outlines update))) :
    holds (forHeader init cond update) := by
  have start : holds (ForInit.chars init) := by
    match init with
    | none => exact piecewise.nil
    | some (.declare decl) =>
        exact LocalDecl.holds_chars piecewise ofNames
          (names decl.ty (by simp [ForInit.declared?]))
          (names decl.name (by simp [ForInit.declared?])) ofInit
    | some (.run exprs) => exact Expr.holds_commaChars piecewise ofNames ofInit
  have updates : holds (if update.isEmpty then [] else ' ' :: Expr.commaChars update) := by
    split
    · exact piecewise.nil
    · exact piecewise.append piecewise.space (Expr.holds_commaChars piecewise ofNames ofUpdate)
  have started := piecewise.append start piecewise.semicolon
  cases cond with
  | none =>
      have tested := piecewise.append started piecewise.semicolon
      simpa [forHeader] using piecewise.append tested updates
  | some value =>
      have ofValue := value.holds_chars piecewise ofNames
        ((Node.allObey_nodesOfList_cons _ _).mp ofCond).1
      have test := piecewise.append (piecewise.append started piecewise.space) ofValue
      have tested := piecewise.append test piecewise.semicolon
      simpa [forHeader] using piecewise.append tested updates

omit ofNames

/-! ## Heads of declarations -/

theorem Member.holds_modifierChars {modifiers : List String}
    (names : ∀ modifier ∈ modifiers, holds modifier.toList) :
    holds (Member.modifierChars modifiers) := by
  induction modifiers with
  | nil => exact piecewise.nil
  | cons modifier rest ih =>
      rcases List.forall_mem_cons.mp names with ⟨ofFirst, ofRest⟩
      exact piecewise.append (piecewise.append ofFirst piecewise.space) (ih ofRest)

theorem Param.holds_chars {params : List Param}
    (names : ∀ name ∈ params.flatMap fun param => [param.ty, param.name], holds name.toList) :
    ∀ item ∈ params.map Param.chars, holds item := by
  intro item member
  rcases List.mem_map.mp member with ⟨param, isParam, rfl⟩
  have ofType := names param.ty (List.mem_flatMap.mpr ⟨param, isParam, by simp⟩)
  have ofName := names param.name (List.mem_flatMap.mpr ⟨param, isParam, by simp⟩)
  simpa [Param.chars] using piecewise.append (piecewise.append ofType piecewise.space) ofName

theorem MethodDecl.headerChars_eq {decl : MethodDecl}
    (names : ∀ name ∈ (MemberForm.method decl).label.names, holds name.toList) :
    ∃ signature, holds signature ∧ decl.headerChars = signature ++ [' '] := by
  simp only [MemberForm.label, Label.names, List.forall_mem_append, List.forall_mem_cons] at names
  rcases names with ⟨⟨ofModifiers, ofResult, ofName, _⟩, ofParams⟩
  have start := piecewise.append (Member.holds_modifierChars piecewise ofModifiers) ofResult
  have declared := piecewise.append (piecewise.append start piecewise.space) ofName
  have listed := piecewise.append (piecewise.append declared piecewise.opening)
    (piecewise.list (Param.holds_chars piecewise ofParams))
  exact ⟨_, piecewise.append listed piecewise.closing, by simp [headerChars]⟩

theorem MethodDecl.holds_headerChars {decl : MethodDecl}
    (names : ∀ name ∈ (MemberForm.method decl).label.names, holds name.toList) :
    holds decl.headerChars := by
  rcases headerChars_eq piecewise names with ⟨signature, ofSignature, same⟩
  rw [same]
  exact piecewise.append ofSignature piecewise.space

theorem MemberForm.classHeader_eq {modifiers : List String} {name : String}
    (names : ∀ word ∈ modifiers ++ [name], holds word.toList) :
    ∃ signature, holds signature ∧ classHeader modifiers name = signature ++ [' '] := by
  simp only [List.forall_mem_append, List.forall_mem_singleton] at names
  have keyword : holds "class ".toList := piecewise.fixed (by decide)
  have start := piecewise.append (Member.holds_modifierChars piecewise names.1) keyword
  exact ⟨_, piecewise.append start names.2, rfl⟩

theorem MemberForm.holds_classHeader {modifiers : List String} {name : String}
    (names : ∀ word ∈ modifiers ++ [name], holds word.toList) :
    holds (MemberForm.classHeader modifiers name) := by
  rcases classHeader_eq piecewise names with ⟨signature, ofSignature, same⟩
  rw [same]
  exact piecewise.append ofSignature piecewise.space

include ofNames

theorem FieldDecl.holds_chars {decl : FieldDecl}
    (names : ∀ name ∈ (MemberForm.field decl).label.names, holds name.toList)
    (obey : AllObey rule (nodesOfList (Expr.optionOutline decl.init))) : holds decl.chars := by
  simp only [MemberForm.label, Label.names, List.forall_mem_append, List.forall_mem_cons] at names
  rcases names with ⟨ofModifiers, ofType, ofName, _⟩
  have start := piecewise.append (Member.holds_modifierChars piecewise ofModifiers) ofType
  have declared := piecewise.append (piecewise.append start piecewise.space) ofName
  have ofInit := Expr.holds_initChars piecewise ofNames obey
  have parts := piecewise.append (piecewise.append declared ofInit) piecewise.semicolon
  simpa [FieldDecl.chars] using parts

end Names

end Whittle

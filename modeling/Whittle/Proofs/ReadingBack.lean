import Whittle.Program.Interchange
import Whittle.Program.Outline
import Whittle.Proofs.Records

/-!
# Trees are read back

A tree is read back as it was written, as long as its floating-point literals
are finite: no JSON number stands for the others.  For each case of a tree there
is one equation that says what is read from the record it is written as.
-/

namespace Whittle

open Json (Source Part)

/-! ## Finite literals -/

/-- Whether a node is not a floating-point literal that is infinite or not a number. -/
@[simp]
def Node.isFinite : Node → Bool
  | .expr (.literal (.double value)) => value.isFinite
  | _ => true

/-- Whether all floating-point literals among some nodes are finite. -/
def FiniteDoubles (nodes : List Node) : Prop :=
  ∀ node ∈ nodes, node.isFinite = true

@[simp]
theorem finiteDoubles_nil : FiniteDoubles [] := by
  simp [FiniteDoubles]

@[simp]
theorem finiteDoubles_cons (node : Node) (rest : List Node) :
    FiniteDoubles (node :: rest) ↔ node.isFinite = true ∧ FiniteDoubles rest := by
  simp [FiniteDoubles]

@[simp]
theorem finiteDoubles_append (first second : List Node) :
    FiniteDoubles (first ++ second) ↔ FiniteDoubles first ∧ FiniteDoubles second := by
  simp [FiniteDoubles, or_imp, forall_and]

@[simp]
theorem finiteDoubles_node (head : Node) (children : List Outline) :
    FiniteDoubles (Outline.node head children).nodes ↔
      head.isFinite = true ∧ FiniteDoubles (Outline.nodesOfList children) := by
  simp [Outline.nodes]

@[simp]
theorem finiteDoubles_nodesOfList_nil : FiniteDoubles (Outline.nodesOfList []) :=
  finiteDoubles_nil

@[simp]
theorem finiteDoubles_nodesOfList (outline : Outline) (rest : List Outline) :
    FiniteDoubles (Outline.nodesOfList (outline :: rest)) ↔
      FiniteDoubles outline.nodes ∧ FiniteDoubles (Outline.nodesOfList rest) := by
  simp [Outline.nodesOfList]

@[simp]
theorem finiteDoubles_nodesOfList_append (first second : List Outline) :
    FiniteDoubles (Outline.nodesOfList (first ++ second)) ↔
      FiniteDoubles (Outline.nodesOfList first) ∧ FiniteDoubles (Outline.nodesOfList second) := by
  induction first with
  | nil => simp [Outline.nodesOfList]
  | cons outline rest ih => simp [ih, and_assoc]

theorem Expr.finiteDoubles_outlines (exprs : List Expr) :
    FiniteDoubles (Outline.nodesOfList (Expr.outlines exprs)) ↔
      ∀ expr ∈ exprs, FiniteDoubles expr.outline.nodes := by
  induction exprs with
  | nil => simp [Expr.outlines]
  | cons expr rest ih => simp [Expr.outlines, ih]

theorem Stmt.finiteDoubles_outlines (stmts : List Stmt) :
    FiniteDoubles (Outline.nodesOfList (Stmt.outlines stmts)) ↔
      ∀ stmt ∈ stmts, FiniteDoubles stmt.outline.nodes := by
  induction stmts with
  | nil => simp [Stmt.outlines]
  | cons stmt rest ih => simp [Stmt.outlines, ih]

theorem Member.finiteDoubles_outlines (members : List Member) :
    FiniteDoubles (Outline.nodesOfList (Member.outlines members)) ↔
      ∀ member ∈ members, FiniteDoubles member.outline.nodes := by
  induction members with
  | nil => simp [Member.outlines]
  | cons member rest ih => simp [Member.outlines, ih]

/-! ## Reading back -/

theorem Literal.ofJson?_toJson (value : Literal)
    (finite : (Node.expr (.literal value)).isFinite = true) :
    Literal.ofJson? value.toJson = some value := by
  cases value with
  | int value =>
      have read : Literal.ofJson? (Literal.toJson (.int value)) =
          .int <$> Json.int64? (.int value.toInt) := rfl
      simp [read]
  | long value =>
      have read : Literal.ofJson? (Literal.toJson (.long value)) =
          .long <$> Json.int64? (.int value.toInt) := rfl
      simp [read]
  | double value =>
      have written : Literal.toJson (.double value) = .case "Double" (.float value) :=
        congrArg (Json.case "Double") (if_pos finite)
      rw [written]
      rfl
  | char value =>
      have read : Literal.ofJson? (Literal.toJson (.char value)) =
          .char <$> Json.char? (.str (String.ofList [value])) := rfl
      simp [read, Json.char?]
  | bool value => rfl
  | string value => rfl
  | null => rfl

theorem UnaryOp.ofJson?_name (op : UnaryOp) : UnaryOp.ofJson? (.str op.name) = some op := by
  cases op <;> rfl

theorem BinaryOp.ofJson?_name (op : BinaryOp) : BinaryOp.ofJson? (.str op.name) = some op := by
  cases op <;> rfl

theorem AssignOp.ofJson?_name (op : AssignOp) : AssignOp.ofJson? (.str op.name) = some op := by
  cases op <;> rfl

namespace Comment

theorem ofJson?_toJson (comment : Comment) : ofJson? comment.toJson = some comment := by
  cases comment <;> rfl

theorem listOfJson?_listToJson (trivia : List Comment) :
    listOfJson? (listToJson trivia) = some trivia :=
  Json.list?_ofList fun comment _ => ofJson?_toJson comment

end Comment

/-! ## Expressions -/

section Reading

variable (source : Source)

namespace Expr

theorem ofJson?_literal (value : Json) :
    ofJson? source (.kindCase "Literal" value) = .literal <$> Literal.ofJson? value := by
  rw [ofJson?]
  rfl

theorem ofJson?_ident (name : String) :
    ofJson? source (.kindCase "Ident" (.str name)) = some (.ident name) := by
  rw [ofJson?]
  rfl

theorem ofJson?_unary (op operand : Json) :
    ofJson? source (.kindCase "Unary" (.obj [("op", op), ("operand", operand)])) = (do
      let op ← UnaryOp.ofJson? op
      return .unary op (← ofJson? source operand)) := by
  rw [ofJson?]
  cases source <;> rfl

theorem ofJson?_binary (op lhs rhs : Json) :
    ofJson? source (.kindCase "Binary" (.obj [("op", op), ("lhs", lhs), ("rhs", rhs)])) = (do
      let op ← BinaryOp.ofJson? op
      return .binary op (← ofJson? source lhs) (← ofJson? source rhs)) := by
  rw [ofJson?]
  cases source <;> rfl

theorem ofJson?_assign (op target value : Json) :
    ofJson? source
        (.kindCase "Assign" (.obj [("op", op), ("target", target), ("value", value)])) = (do
      let op ← AssignOp.ofJson? op
      return .assign op (← ofJson? source target) (← ofJson? source value)) := by
  rw [ofJson?]
  cases source <;> rfl

theorem ofJson?_cast (ty : String) (operand : Json) :
    ofJson? source (.kindCase "Cast" (.obj [("ty", .str ty), ("expr", operand)])) = (do
      return .cast ty (← ofJson? source operand)) := by
  rw [ofJson?]
  cases source <;> rfl

theorem ofJson?_paren (inner : Json) :
    ofJson? source (.kindCase "Paren" inner) = (do return .paren (← ofJson? source inner)) := by
  rw [ofJson?]
  rfl

theorem ofJson?_invoke (callee args : Json) :
    ofJson? source (.kindCase "Invoke" (.obj [("callee", callee), ("args", args)])) = (do
      let callee ← ofJson? source callee
      return .invoke callee (← args.list? (ofJson? source))) := by
  rw [ofJson?]
  simp only [Option.bind_eq_bind, Part.bind_items?]
  cases source <;> rfl

theorem ofJson?_member (target : Json) (name : String) :
    ofJson? source (.kindCase "Member" (.obj [("target", target), ("name", .str name)])) = (do
      return .member (← ofJson? source target) name) := by
  rw [ofJson?]
  cases source <;> rfl

theorem ofJson?_conditional (cond thenValue elseValue : Json) :
    ofJson? source (.kindCase "Conditional"
        (.obj [("cond", cond), ("then_expr", thenValue), ("else_expr", elseValue)])) = (do
      let cond ← ofJson? source cond
      return .conditional cond (← ofJson? source thenValue) (← ofJson? source elseValue)) := by
  rw [ofJson?]
  cases source <;> rfl

end Expr

mutual

/-- An expression is read back. -/
theorem Expr.ofJson?_toJson : (expr : Expr) → FiniteDoubles expr.outline.nodes →
    Expr.ofJson? source expr.toJson = some expr
  | .literal value, finite => by
      have back := Literal.ofJson?_toJson value (finite _ (List.mem_cons_self ..))
      rw [Expr.toJson, Expr.ofJson?_literal, back]
      rfl
  | .ident name, _ => by
      rw [Expr.toJson, Expr.ofJson?_ident]
  | .unary op operand, finite => by
      simp only [Expr.outline, finiteDoubles_node, finiteDoubles_nodesOfList] at finite
      have back := Expr.ofJson?_toJson operand finite.2.1
      rw [Expr.toJson, Expr.ofJson?_unary, UnaryOp.ofJson?_name, back]
      rfl
  | .binary op lhs rhs, finite => by
      simp only [Expr.outline, finiteDoubles_node, finiteDoubles_nodesOfList] at finite
      have left := Expr.ofJson?_toJson lhs finite.2.1
      have right := Expr.ofJson?_toJson rhs finite.2.2.1
      rw [Expr.toJson, Expr.ofJson?_binary, BinaryOp.ofJson?_name, left, right]
      rfl
  | .assign op target value, finite => by
      simp only [Expr.outline, finiteDoubles_node, finiteDoubles_nodesOfList] at finite
      have left := Expr.ofJson?_toJson target finite.2.1
      have right := Expr.ofJson?_toJson value finite.2.2.1
      rw [Expr.toJson, Expr.ofJson?_assign, AssignOp.ofJson?_name, left, right]
      rfl
  | .cast ty operand, finite => by
      simp only [Expr.outline, finiteDoubles_node, finiteDoubles_nodesOfList] at finite
      have back := Expr.ofJson?_toJson operand finite.2.1
      rw [Expr.toJson, Expr.ofJson?_cast, back]
      rfl
  | .paren inner, finite => by
      simp only [Expr.outline, finiteDoubles_node, finiteDoubles_nodesOfList] at finite
      have back := Expr.ofJson?_toJson inner finite.2.1
      rw [Expr.toJson, Expr.ofJson?_paren, back]
      rfl
  | .invoke callee args, finite => by
      simp only [Expr.outline, finiteDoubles_node, finiteDoubles_nodesOfList] at finite
      have called := Expr.ofJson?_toJson callee finite.2.1
      have back := Expr.list?_listToJson args finite.2.2
      rw [Expr.toJson, Expr.ofJson?_invoke, called, back]
      rfl
  | .member target name, finite => by
      simp only [Expr.outline, finiteDoubles_node, finiteDoubles_nodesOfList] at finite
      have back := Expr.ofJson?_toJson target finite.2.1
      rw [Expr.toJson, Expr.ofJson?_member, back]
      rfl
  | .conditional cond thenValue elseValue, finite => by
      simp only [Expr.outline, finiteDoubles_node, finiteDoubles_nodesOfList] at finite
      have first := Expr.ofJson?_toJson cond finite.2.1
      have second := Expr.ofJson?_toJson thenValue finite.2.2.1
      have third := Expr.ofJson?_toJson elseValue finite.2.2.2.1
      rw [Expr.toJson, Expr.ofJson?_conditional, first, second, third]
      rfl

theorem Expr.list?_listToJson : (exprs : List Expr) →
    FiniteDoubles (Outline.nodesOfList (Expr.outlines exprs)) →
      (Json.arr (Expr.listToJson exprs)).list? (Expr.ofJson? source) = some exprs
  | [], _ => rfl
  | expr :: rest, finite => by
      simp only [Expr.outlines, finiteDoubles_nodesOfList] at finite
      have first := Expr.ofJson?_toJson expr finite.1
      have others := Expr.list?_listToJson rest finite.2
      rw [Expr.listToJson, Json.list?_cons, first, others]
      rfl

end

theorem Expr.toJson_ne_null (expr : Expr) : expr.toJson ≠ .null := by
  cases expr <;> simp [Expr.toJson, Json.kindCase, Json.case]

/-- The field of an expression that may be missing. -/
theorem Expr.optional?_optionToJson (expr : Option Expr)
    (finite : FiniteDoubles (Outline.nodesOfList (Expr.optionOutline expr))) :
    (Expr.optionToJson expr).optional? (Expr.ofJson? source) = some expr := by
  refine Json.optional?_ofOption (fun content _ => content.toJson_ne_null) ?_
  rintro content rfl
  exact Expr.ofJson?_toJson source content ((finiteDoubles_nodesOfList ..).mp finite).1

theorem Expr.optionOfSlot?_eq {whole : Json} (slot : Option (Part whole)) :
    Expr.optionOfSlot? source slot =
      slot.elim (some none) fun part => part.1.optional? (Expr.ofJson? source) :=
  Json.mapM_present slot (Expr.ofJson? source)

/-! ## Statements -/

namespace LocalDecl

theorem ofJson?_record (ty name : String) (init : Json) :
    ofJson? source (.obj [("ty", .str ty), ("name", .str name), ("init", init)]) = (do
      return ⟨ty, name, ← init.optional? (Expr.ofJson? source)⟩) := by
  rw [ofJson?]
  simp only [Expr.optionOfSlot?_eq]
  rfl

theorem ofJson?_toJson (decl : LocalDecl)
    (finite : FiniteDoubles (Outline.nodesOfList (Expr.optionOutline decl.init))) :
    ofJson? source decl.toJson = some decl := by
  have back := Expr.optional?_optionToJson source decl.init finite
  rw [toJson, ofJson?_record, back]
  rfl

end LocalDecl

namespace ForInit

theorem toJson_ne_null (init : ForInit) : init.toJson ≠ .null := by
  cases init <;> simp [toJson, Json.case]

theorem ofJson?_toJson (init : ForInit)
    (finite : FiniteDoubles (Outline.nodesOfList (ForInit.outlines (some init)))) :
    ofJson? source init.toJson = some init := by
  cases init with
  | declare decl =>
      have read : ofJson? source (ForInit.declare decl).toJson =
          .declare <$> LocalDecl.ofJson? source decl.toJson := rfl
      rw [read, LocalDecl.ofJson?_toJson source decl finite]
      rfl
  | run exprs =>
      have read : ofJson? source (ForInit.run exprs).toJson =
          .run <$> (Json.arr (Expr.listToJson exprs)).list? (Expr.ofJson? source) := rfl
      rw [read, Expr.list?_listToJson source exprs finite]
      rfl

/-- The start of a counting loop that may be missing. -/
theorem optional?_ofOption (init : Option ForInit)
    (finite : FiniteDoubles (Outline.nodesOfList (ForInit.outlines init))) :
    (Json.ofOption toJson init).optional? (ofJson? source) = some init := by
  refine Json.optional?_ofOption (fun content _ => content.toJson_ne_null) ?_
  rintro content rfl
  exact ofJson?_toJson source content finite

end ForInit

namespace Stmt

theorem toJson_ne_null (stmt : Stmt) : stmt.toJson ≠ .null := by
  cases stmt
  simp [toJson]

/-- The statements of a block, taken out one by one. -/
theorem bind_stmtParts? {β : Type} {whole : Json} (part : Part whole)
    (next : List Stmt → Option β) :
    (part.stmtParts?.bind fun stmts =>
        (stmts.mapM fun stmt => Stmt.ofJson? source stmt.1).bind next) =
      (Stmt.blockOfJson? source part.1).bind next := by
  rw [Part.stmtParts?, Part.slots?, blockOfJson?]
  cases Json.slots? ["stmts"] part.1 with
  | none => rfl
  | some slots =>
      match slots with
      | [some stmts] => exact Part.bind_items? (part.within stmts) (ofJson? source) next
      | [] | [none] | none :: _ :: _ | some _ :: _ :: _ => rfl

section Forms

variable (trivia : Json)

theorem ofJson?_block (body : Json) :
    ofJson? source (.obj [("trivia", trivia), ("kind", .case "Block" body)]) = (do
      let trivia ← Comment.listOfJson? trivia
      return ⟨trivia, .block (← blockOfJson? source body)⟩) := by
  rw [ofJson?]
  simp only [Option.bind_eq_bind, bind_stmtParts?]
  rfl

theorem ofJson?_local (decl : Json) :
    ofJson? source (.obj [("trivia", trivia), ("kind", .case "Local" decl)]) = (do
      let trivia ← Comment.listOfJson? trivia
      return ⟨trivia, .declare (← LocalDecl.ofJson? source decl)⟩) := by
  rw [ofJson?]
  rfl

theorem ofJson?_expr (value : Json) :
    ofJson? source (.obj [("trivia", trivia), ("kind", .case "Expr" value)]) = (do
      let trivia ← Comment.listOfJson? trivia
      return ⟨trivia, .expr (← Expr.ofJson? source value)⟩) := by
  rw [ofJson?]
  rfl

theorem ofJson?_if (cond thenBranch elseBranch : Json) :
    ofJson? source (.obj [("trivia", trivia), ("kind", .case "If"
        (.obj [("cond", cond), ("then_branch", thenBranch), ("else_branch", elseBranch)]))]) = (do
      let trivia ← Comment.listOfJson? trivia
      let cond ← Expr.ofJson? source cond
      let thenBranch ← ofJson? source thenBranch
      return ⟨trivia, .ifElse cond thenBranch (← elseBranch.optional? (ofJson? source))⟩) := by
  rw [ofJson?]
  simp only [Json.mapM_present]
  cases source <;> rfl

theorem ofJson?_for (init cond update body : Json) :
    ofJson? source (.obj [("trivia", trivia), ("kind", .case "For"
        (.obj [("init", init), ("cond", cond), ("update", update), ("body", body)]))]) = (do
      let trivia ← Comment.listOfJson? trivia
      let init ← init.optional? (ForInit.ofJson? source)
      let cond ← cond.optional? (Expr.ofJson? source)
      let update ← update.list? (Expr.ofJson? source)
      return ⟨trivia, .forLoop init cond update (← ofJson? source body)⟩) := by
  rw [ofJson?]
  simp only [Json.mapM_present, Expr.optionOfSlot?_eq]
  cases source <;> rfl

theorem ofJson?_while (cond body : Json) :
    ofJson? source (.obj [("trivia", trivia), ("kind", .case "While"
        (.obj [("cond", cond), ("body", body)]))]) = (do
      let trivia ← Comment.listOfJson? trivia
      let cond ← Expr.ofJson? source cond
      return ⟨trivia, .whileLoop cond (← ofJson? source body)⟩) := by
  rw [ofJson?]
  cases source <;> rfl

theorem ofJson?_doWhile (body cond : Json) :
    ofJson? source (.obj [("trivia", trivia), ("kind", .case "DoWhile"
        (.obj [("body", body), ("cond", cond)]))]) = (do
      let trivia ← Comment.listOfJson? trivia
      let body ← ofJson? source body
      return ⟨trivia, .doWhile body (← Expr.ofJson? source cond)⟩) := by
  rw [ofJson?]
  cases source <;> rfl

theorem ofJson?_return (value : Json) :
    ofJson? source (.obj [("trivia", trivia), ("kind", .case "Return" value)]) = (do
      let trivia ← Comment.listOfJson? trivia
      return ⟨trivia, .ret (← value.optional? (Expr.ofJson? source))⟩) := by
  rw [ofJson?]
  simp only [Expr.optionOfSlot?_eq]
  rfl

end Forms

end Stmt

mutual

/-- A statement is read back. -/
theorem Stmt.ofJson?_toJson : (stmt : Stmt) → FiniteDoubles stmt.outline.nodes →
    Stmt.ofJson? source stmt.toJson = some stmt
  | ⟨trivia, form⟩, finite => by
      simp only [Stmt.outline, finiteDoubles_node] at finite
      have back := StmtForm.ofJson?_toJson form finite.2 (Comment.listToJson trivia)
      rw [Stmt.toJson, back, Comment.listOfJson?_listToJson]
      rfl

/-- A statement is read back once its comments are. -/
theorem StmtForm.ofJson?_toJson : (form : StmtForm) →
    FiniteDoubles (Outline.nodesOfList form.children) → (trivia : Json) →
      Stmt.ofJson? source (.obj [("trivia", trivia), ("kind", form.toJson)]) = (do
        return ⟨← Comment.listOfJson? trivia, form⟩)
  | .block body, finite, trivia => by
      have back := Stmt.list?_listToJson body finite
      have read : Stmt.blockOfJson? source (.obj [("stmts", .arr (Stmt.listToJson body))]) =
          (Json.arr (Stmt.listToJson body)).list? (Stmt.ofJson? source) := rfl
      rw [StmtForm.toJson, Stmt.ofJson?_block, read, back]
      rfl
  | .declare decl, finite, trivia => by
      rw [StmtForm.toJson, Stmt.ofJson?_local, LocalDecl.ofJson?_toJson source decl finite]
      rfl
  | .expr value, finite, trivia => by
      simp only [StmtForm.children, finiteDoubles_nodesOfList] at finite
      rw [StmtForm.toJson, Stmt.ofJson?_expr, Expr.ofJson?_toJson source value finite.1]
      rfl
  | .ifElse cond thenBranch none, finite, trivia => by
      simp only [StmtForm.children, finiteDoubles_nodesOfList] at finite
      have decided := Expr.ofJson?_toJson source cond finite.1
      have yes := Stmt.ofJson?_toJson thenBranch finite.2.1
      rw [StmtForm.toJson, Stmt.ofJson?_if, decided, yes]
      rfl
  | .ifElse cond thenBranch (some elseBranch), finite, trivia => by
      simp only [StmtForm.children, finiteDoubles_nodesOfList] at finite
      have decided := Expr.ofJson?_toJson source cond finite.1
      have yes := Stmt.ofJson?_toJson thenBranch finite.2.1
      have no := Stmt.ofJson?_toJson elseBranch finite.2.2.1
      rw [StmtForm.toJson, Stmt.ofJson?_if, decided, yes,
        Json.optional?_of_ne_null _ elseBranch.toJson_ne_null, no]
      rfl
  | .forLoop init cond update body, finite, trivia => by
      simp only [StmtForm.children, finiteDoubles_nodesOfList_append,
        finiteDoubles_nodesOfList] at finite
      rcases finite with ⟨⟨⟨ofInit, ofCond⟩, ofUpdate⟩, ofBody, -⟩
      have started := ForInit.optional?_ofOption source init ofInit
      have decided := Expr.optional?_optionToJson source cond ofCond
      have updated := Expr.list?_listToJson source update ofUpdate
      have again := Stmt.ofJson?_toJson body ofBody
      rw [StmtForm.toJson, Stmt.ofJson?_for, started, decided, updated, again]
      rfl
  | .whileLoop cond body, finite, trivia => by
      simp only [StmtForm.children, finiteDoubles_nodesOfList] at finite
      have decided := Expr.ofJson?_toJson source cond finite.1
      have again := Stmt.ofJson?_toJson body finite.2.1
      rw [StmtForm.toJson, Stmt.ofJson?_while, decided, again]
      rfl
  | .doWhile body cond, finite, trivia => by
      simp only [StmtForm.children, finiteDoubles_nodesOfList] at finite
      have again := Stmt.ofJson?_toJson body finite.1
      have decided := Expr.ofJson?_toJson source cond finite.2.1
      rw [StmtForm.toJson, Stmt.ofJson?_doWhile, again, decided]
      rfl
  | .ret value, finite, trivia => by
      rw [StmtForm.toJson, Stmt.ofJson?_return, Expr.optional?_optionToJson source value finite]
      rfl
  | .brk, _, trivia => by
      rw [StmtForm.toJson, Stmt.ofJson?]
      rfl
  | .cont, _, trivia => by
      rw [StmtForm.toJson, Stmt.ofJson?]
      rfl
  | .empty, _, trivia => by
      rw [StmtForm.toJson, Stmt.ofJson?]
      rfl

theorem Stmt.list?_listToJson : (stmts : List Stmt) →
    FiniteDoubles (Outline.nodesOfList (Stmt.outlines stmts)) →
      (Json.arr (Stmt.listToJson stmts)).list? (Stmt.ofJson? source) = some stmts
  | [], _ => rfl
  | stmt :: rest, finite => by
      simp only [Stmt.outlines, finiteDoubles_nodesOfList] at finite
      have first := Stmt.ofJson?_toJson stmt finite.1
      have others := Stmt.list?_listToJson rest finite.2
      rw [Stmt.listToJson, Json.list?_cons, first, others]
      rfl

end

/-- A block is read back. -/
theorem Stmt.blockOfJson?_blockToJson (body : List Stmt)
    (finite : FiniteDoubles (Outline.nodesOfList (Stmt.outlines body))) :
    Stmt.blockOfJson? source (Stmt.blockToJson body) = some body := by
  have read : Stmt.blockOfJson? source (Stmt.blockToJson body) =
      (Json.arr (Stmt.listToJson body)).list? (Stmt.ofJson? source) := rfl
  rw [read, Stmt.list?_listToJson source body finite]

/-! ## Declarations -/

theorem Param.ofJson?_toJson (param : Param) : Param.ofJson? param.toJson = some param :=
  rfl

namespace FieldDecl

theorem ofJson?_record (modifiers : Json) (ty name : String) (init : Json) :
    ofJson? source (.obj [("modifiers", modifiers), ("ty", .str ty), ("name", .str name),
        ("init", init)]) = (do
      return ⟨← modifiers.strings?, ty, name, ← init.optional? (Expr.ofJson? source)⟩) := by
  rw [ofJson?]
  simp only [Expr.optionOfSlot?_eq]
  rfl

theorem ofJson?_toJson (decl : FieldDecl)
    (finite : FiniteDoubles (Outline.nodesOfList (Expr.optionOutline decl.init))) :
    ofJson? source decl.toJson = some decl := by
  have back := Expr.optional?_optionToJson source decl.init finite
  rw [toJson, ofJson?_record, Json.strings?_ofStrings, back]
  rfl

end FieldDecl

theorem MethodDecl.ofJson?_toJson (decl : MethodDecl)
    (finite : FiniteDoubles (Outline.nodesOfList (Stmt.outlines decl.body))) :
    MethodDecl.ofJson? source decl.toJson = some decl := by
  have params := Json.list?_ofList fun param (_ : param ∈ decl.params) => param.ofJson?_toJson
  have body := Stmt.blockOfJson?_blockToJson source decl.body finite
  have read : MethodDecl.ofJson? source decl.toJson = (do
      let modifiers ← (Json.ofStrings decl.modifiers).strings?
      let params ← (Json.ofList Param.toJson decl.params).list? Param.ofJson?
      let body ← Stmt.blockOfJson? source (Stmt.blockToJson decl.body)
      return ⟨modifiers, decl.ret, decl.name, params, body⟩) := rfl
  rw [read, Json.strings?_ofStrings, params, body]
  rfl

theorem Member.ofJson?_class (trivia modifiers members : Json) (name : String) :
    Member.ofJson? source (.obj [("trivia", trivia), ("kind", .case "Class"
        (.obj [("modifiers", modifiers), ("name", .str name), ("members", members)]))]) = (do
      let trivia ← Comment.listOfJson? trivia
      let modifiers ← modifiers.strings?
      return ⟨trivia, .classDecl modifiers name (← members.list? (Member.ofJson? source))⟩) := by
  rw [Member.ofJson?]
  simp only [Option.bind_eq_bind, Part.bind_items?]
  rfl

theorem Member.ofJson?_field (trivia decl : Json) :
    Member.ofJson? source (.obj [("trivia", trivia), ("kind", .case "Field" decl)]) = (do
      let trivia ← Comment.listOfJson? trivia
      return ⟨trivia, .field (← FieldDecl.ofJson? source decl)⟩) := by
  rw [Member.ofJson?]
  rfl

theorem Member.ofJson?_method (trivia decl : Json) :
    Member.ofJson? source (.obj [("trivia", trivia), ("kind", .case "Method" decl)]) = (do
      let trivia ← Comment.listOfJson? trivia
      return ⟨trivia, .method (← MethodDecl.ofJson? source decl)⟩) := by
  rw [Member.ofJson?]
  rfl

mutual

/-- A declaration is read back. -/
theorem Member.ofJson?_toJson : (member : Member) → FiniteDoubles member.outline.nodes →
    Member.ofJson? source member.toJson = some member
  | ⟨trivia, form⟩, finite => by
      simp only [Member.outline, finiteDoubles_node] at finite
      have back := MemberForm.ofJson?_toJson form finite.2 (Comment.listToJson trivia)
      rw [Member.toJson, back, Comment.listOfJson?_listToJson]
      rfl

/-- A declaration is read back once its comments are. -/
theorem MemberForm.ofJson?_toJson : (form : MemberForm) →
    FiniteDoubles (Outline.nodesOfList form.children) → (trivia : Json) →
      Member.ofJson? source (.obj [("trivia", trivia), ("kind", form.toJson)]) = (do
        return ⟨← Comment.listOfJson? trivia, form⟩)
  | .classDecl modifiers name members, finite, trivia => by
      have back := Member.list?_listToJson members finite
      rw [MemberForm.toJson, Member.ofJson?_class, Json.strings?_ofStrings, back]
      rfl
  | .field decl, finite, trivia => by
      rw [MemberForm.toJson, Member.ofJson?_field, FieldDecl.ofJson?_toJson source decl finite]
      rfl
  | .method decl, finite, trivia => by
      rw [MemberForm.toJson, Member.ofJson?_method, MethodDecl.ofJson?_toJson source decl finite]
      rfl

theorem Member.list?_listToJson : (members : List Member) →
    FiniteDoubles (Outline.nodesOfList (Member.outlines members)) →
      (Json.arr (Member.listToJson members)).list? (Member.ofJson? source) = some members
  | [], _ => rfl
  | member :: rest, finite => by
      simp only [Member.outlines, finiteDoubles_nodesOfList] at finite
      have first := Member.ofJson?_toJson member finite.1
      have others := Member.list?_listToJson rest finite.2
      rw [Member.listToJson, Json.list?_cons, first, others]
      rfl

end

/-- A program is read back. -/
theorem Program.ofJson?_toJson (program : Program) (finite : FiniteDoubles program.nodes) :
    Program.ofJson? source program.toJson = some program := by
  have back := Member.list?_listToJson source program.members finite
  have read : Program.ofJson? source program.toJson = (do
      return ⟨← (Json.arr (Member.listToJson program.members)).list? (Member.ofJson? source)⟩) :=
    rfl
  rw [read, back]
  rfl

end Reading

end Whittle

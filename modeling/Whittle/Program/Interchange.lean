import Whittle.Json.Record
import Whittle.Json.Words
import Whittle.Program.Kind
import Whittle.Program.Tree

/-!
# Programs as JSON

The form in which trees travel.  Writing gives one normal form: records as
objects with all their fields, missing parts as null, cases without content as
their bare name.  Reading also takes records as arrays, missing optional fields
and unknown ones.
-/

namespace Whittle

open Json (slots? present choice? Part Source)

namespace Json

def case (name : String) (content : Json) : Json :=
  .obj [(name, content)]

/-- A case in the record that holds nothing else. -/
def kindCase (name : String) (content : Json) : Json :=
  .obj [("kind", case name content)]

end Json

/-! ## Writing -/

namespace Comment

def toJson : Comment → Json
  | .line text => .case "Line" (.str text)
  | .block text => .case "Block" (.str text)

def listToJson (trivia : List Comment) : Json :=
  .ofList toJson trivia

end Comment

def Literal.toJson : Literal → Json
  | .int value => .case "Int" (.int value.toInt)
  | .long value => .case "Long" (.int value.toInt)
  | .double value => .case "Double" (.ofFloat value)
  | .bool value => .case "Bool" (.bool value)
  | .char value => .case "Char" (.str (String.ofList [value]))
  | .string value => .case "Str" (.str value)
  | .null => .str "Null"

mutual

def Expr.toJson : Expr → Json
  | .literal value => .kindCase "Literal" value.toJson
  | .ident name => .kindCase "Ident" (.str name)
  | .unary op operand =>
      .kindCase "Unary" (.obj [("op", .str op.name), ("operand", operand.toJson)])
  | .binary op lhs rhs =>
      .kindCase "Binary" (.obj [("op", .str op.name), ("lhs", lhs.toJson), ("rhs", rhs.toJson)])
  | .assign op target value =>
      .kindCase "Assign"
        (.obj [("op", .str op.name), ("target", target.toJson), ("value", value.toJson)])
  | .cast ty operand =>
      .kindCase "Cast" (.obj [("ty", .str ty), ("expr", operand.toJson)])
  | .paren inner => .kindCase "Paren" inner.toJson
  | .invoke callee args =>
      .kindCase "Invoke"
        (.obj [("callee", callee.toJson), ("args", .arr (Expr.listToJson args))])
  | .member target name =>
      .kindCase "Member" (.obj [("target", target.toJson), ("name", .str name)])
  | .conditional cond thenValue elseValue =>
      .kindCase "Conditional"
        (.obj [("cond", cond.toJson), ("then_expr", thenValue.toJson),
          ("else_expr", elseValue.toJson)])

def Expr.listToJson : List Expr → List Json
  | [] => []
  | expr :: rest => expr.toJson :: Expr.listToJson rest

end

/-- An expression that may be missing as JSON. -/
def Expr.optionToJson (expr : Option Expr) : Json :=
  .ofOption Expr.toJson expr

def LocalDecl.toJson (decl : LocalDecl) : Json :=
  .obj [("ty", .str decl.ty), ("name", .str decl.name), ("init", Expr.optionToJson decl.init)]

/-- The start of a counting loop as JSON. -/
def ForInit.toJson : ForInit → Json
  | .declare decl => .case "Local" decl.toJson
  | .run exprs => .case "Exprs" (.arr (Expr.listToJson exprs))

mutual

def Stmt.toJson : Stmt → Json
  | ⟨trivia, form⟩ => .obj [("trivia", Comment.listToJson trivia), ("kind", form.toJson)]

/-- A statement without its comments as JSON. -/
def StmtForm.toJson : StmtForm → Json
  | .block body => .case "Block" (.obj [("stmts", .arr (Stmt.listToJson body))])
  | .declare decl => .case "Local" decl.toJson
  | .expr value => .case "Expr" value.toJson
  | .ifElse cond thenBranch none =>
      .case "If"
        (.obj [("cond", cond.toJson), ("then_branch", thenBranch.toJson), ("else_branch", .null)])
  | .ifElse cond thenBranch (some elseBranch) =>
      .case "If"
        (.obj [("cond", cond.toJson), ("then_branch", thenBranch.toJson),
          ("else_branch", elseBranch.toJson)])
  | .forLoop init cond update body =>
      .case "For"
        (.obj [("init", .ofOption ForInit.toJson init), ("cond", Expr.optionToJson cond),
          ("update", .arr (Expr.listToJson update)), ("body", body.toJson)])
  | .whileLoop cond body => .case "While" (.obj [("cond", cond.toJson), ("body", body.toJson)])
  | .doWhile body cond => .case "DoWhile" (.obj [("body", body.toJson), ("cond", cond.toJson)])
  | .ret value => .case "Return" (Expr.optionToJson value)
  | .brk => .str "Break"
  | .cont => .str "Continue"
  | .empty => .str "Empty"

def Stmt.listToJson : List Stmt → List Json
  | [] => []
  | stmt :: rest => stmt.toJson :: Stmt.listToJson rest

end

def Stmt.blockToJson (body : List Stmt) : Json :=
  .obj [("stmts", .arr (Stmt.listToJson body))]

def Param.toJson (param : Param) : Json :=
  .obj [("ty", .str param.ty), ("name", .str param.name)]

def FieldDecl.toJson (decl : FieldDecl) : Json :=
  .obj [("modifiers", .ofStrings decl.modifiers), ("ty", .str decl.ty), ("name", .str decl.name),
    ("init", Expr.optionToJson decl.init)]

def MethodDecl.toJson (decl : MethodDecl) : Json :=
  .obj [("modifiers", .ofStrings decl.modifiers), ("ret", .str decl.ret),
    ("name", .str decl.name), ("params", .ofList Param.toJson decl.params),
    ("body", Stmt.blockToJson decl.body)]

mutual

def Member.toJson : Member → Json
  | ⟨trivia, form⟩ => .obj [("trivia", Comment.listToJson trivia), ("kind", form.toJson)]

/-- A declaration without its comments as JSON. -/
def MemberForm.toJson : MemberForm → Json
  | .classDecl modifiers name members =>
      .case "Class"
        (.obj [("modifiers", .ofStrings modifiers), ("name", .str name),
          ("members", .arr (Member.listToJson members))])
  | .field decl => .case "Field" decl.toJson
  | .method decl => .case "Method" decl.toJson

def Member.listToJson : List Member → List Json
  | [] => []
  | member :: rest => member.toJson :: Member.listToJson rest

end

def Program.toJson (program : Program) : Json :=
  .obj [("members", .arr (Member.listToJson program.members))]

/-! ## Reading -/

def NodeKind.ofJson? (json : Json) : Option NodeKind :=
  choice? NodeKind.all NodeKind.name json

def BinaryOp.ofJson? (json : Json) : Option BinaryOp :=
  choice? BinaryOp.all BinaryOp.name json

def AssignOp.ofJson? (json : Json) : Option AssignOp :=
  choice? AssignOp.all AssignOp.name json

def UnaryOp.ofJson? (json : Json) : Option UnaryOp :=
  choice? UnaryOp.all UnaryOp.name json

namespace Comment

def ofJson? (json : Json) : Option Comment := do
  let (tag, some content) ← json.variant? | none
  match tag with
  | "Line" => .line <$> content.1.string?
  | "Block" => .block <$> content.1.string?
  | _ => none

def listOfJson? (json : Json) : Option (List Comment) :=
  json.list? ofJson?

end Comment

def Literal.ofJson? (json : Json) : Option Literal := do
  let (tag, content) ← json.variant?
  match tag, content with
  | "Int", some value => .int <$> value.1.int64?
  | "Long", some value => .long <$> value.1.int64?
  | "Double", some value => .double <$> value.1.float?
  | "Bool", some value => .bool <$> value.1.bool?
  | "Char", some value => .char <$> value.1.char?
  | "Str", some value => .string <$> value.1.string?
  | "Null", content => if Json.hasNoContent content then some .null else none
  | _, _ => none

def Expr.ofJson? (source : Source) (json : Json) : Option Expr := do
  let [some kind] ← slots? ["kind"] json | none
  let (tag, some content) ← kind.variant? | none
  match tag with
  | "Literal" => .literal <$> Literal.ofJson? content.1
  | "Ident" => .ident <$> content.1.string?
  | "Unary" =>
      let [some op, some operand] ← content.caseSlots? source ["op", "operand"] | none
      return .unary (← UnaryOp.ofJson? op.1) (← Expr.ofJson? source operand.1)
  | "Binary" =>
      let [some op, some lhs, some rhs] ← content.caseSlots? source ["op", "lhs", "rhs"] | none
      return .binary (← BinaryOp.ofJson? op.1) (← Expr.ofJson? source lhs.1)
        (← Expr.ofJson? source rhs.1)
  | "Assign" =>
      let [some op, some target, some value] ←
        content.caseSlots? source ["op", "target", "value"] | none
      return .assign (← AssignOp.ofJson? op.1) (← Expr.ofJson? source target.1)
        (← Expr.ofJson? source value.1)
  | "Cast" =>
      let [some ty, some operand] ← content.caseSlots? source ["ty", "expr"] | none
      return .cast (← ty.1.string?) (← Expr.ofJson? source operand.1)
  | "Paren" => return .paren (← Expr.ofJson? source content.1)
  | "Invoke" =>
      let [some callee, some args] ← content.caseSlots? source ["callee", "args"] | none
      return .invoke (← Expr.ofJson? source callee.1)
        (← (← args.items?).mapM fun arg => Expr.ofJson? source arg.1)
  | "Member" =>
      let [some target, some name] ← content.caseSlots? source ["target", "name"] | none
      return .member (← Expr.ofJson? source target.1) (← name.1.string?)
  | "Conditional" =>
      let [some cond, some thenValue, some elseValue] ←
        content.caseSlots? source ["cond", "then_expr", "else_expr"] | none
      return .conditional (← Expr.ofJson? source cond.1) (← Expr.ofJson? source thenValue.1)
        (← Expr.ofJson? source elseValue.1)
  | _ => none
termination_by sizeOf json
decreasing_by all_goals exact Part.smaller _

/-- Read an expression from a field that may be missing or null. -/
def Expr.optionOfSlot? {whole : Json} (source : Source) (slot : Option (Part whole)) :
    Option (Option Expr) :=
  (present slot).mapM fun part => Expr.ofJson? source part.1

def Expr.listOfJson? (source : Source) (json : Json) : Option (List Expr) :=
  json.list? (Expr.ofJson? source)

def LocalDecl.ofJson? (source : Source) (json : Json) : Option LocalDecl := do
  let [some ty, some name, init] ← slots? ["ty", "name", "init"] json | none
  return ⟨← ty.1.string?, ← name.1.string?, ← Expr.optionOfSlot? source init⟩

/-- Read the start of a counting loop. -/
def ForInit.ofJson? (source : Source) (json : Json) : Option ForInit := do
  let (tag, some content) ← json.variant? | none
  match tag with
  | "Local" => .declare <$> LocalDecl.ofJson? source content.1
  | "Exprs" => .run <$> Expr.listOfJson? source content.1
  | _ => none

/-- The statements of a block inside a value. -/
def Json.Part.stmtParts? {whole : Json} (part : Part whole) : Option (List (Part whole)) := do
  let [some stmts] ← part.slots? ["stmts"] | none
  stmts.items?

def Stmt.ofJson? (source : Source) (json : Json) : Option Stmt := do
  let [some trivia, some kind] ← slots? ["trivia", "kind"] json | none
  let trivia ← Comment.listOfJson? trivia.1
  let (tag, content) ← kind.variant?
  let form ← match tag, content with
    | "Block", some body =>
        pure (.block (← (← body.stmtParts?).mapM fun stmt => Stmt.ofJson? source stmt.1))
    | "Local", some decl => pure (.declare (← LocalDecl.ofJson? source decl.1))
    | "Expr", some value => pure (.expr (← Expr.ofJson? source value.1))
    | "If", some content => do
        let [some cond, some thenBranch, elseBranch] ←
          content.caseSlots? source ["cond", "then_branch", "else_branch"] | none
        pure (.ifElse (← Expr.ofJson? source cond.1) (← Stmt.ofJson? source thenBranch.1)
          (← (present elseBranch).mapM fun part => Stmt.ofJson? source part.1))
    | "For", some content => do
        let [init, cond, some update, some body] ←
          content.caseSlots? source ["init", "cond", "update", "body"] | none
        pure (.forLoop (← (present init).mapM fun part => ForInit.ofJson? source part.1)
          (← Expr.optionOfSlot? source cond) (← Expr.listOfJson? source update.1)
          (← Stmt.ofJson? source body.1))
    | "While", some content => do
        let [some cond, some body] ← content.caseSlots? source ["cond", "body"] | none
        pure (.whileLoop (← Expr.ofJson? source cond.1) (← Stmt.ofJson? source body.1))
    | "DoWhile", some content => do
        let [some body, some cond] ← content.caseSlots? source ["body", "cond"] | none
        pure (.doWhile (← Stmt.ofJson? source body.1) (← Expr.ofJson? source cond.1))
    | "Return", some value => pure (.ret (← Expr.optionOfSlot? source (some value)))
    | "Break", content => if Json.hasNoContent content then some .brk else none
    | "Continue", content => if Json.hasNoContent content then some .cont else none
    | "Empty", content => if Json.hasNoContent content then some .empty else none
    | _, _ => none
  return ⟨trivia, form⟩
termination_by sizeOf json
decreasing_by all_goals exact Part.smaller _

def Stmt.blockOfJson? (source : Source) (json : Json) : Option (List Stmt) := do
  let [some stmts] ← slots? ["stmts"] json | none
  stmts.1.list? (Stmt.ofJson? source)

def Param.ofJson? (json : Json) : Option Param := do
  let [some ty, some name] ← slots? ["ty", "name"] json | none
  return ⟨← ty.1.string?, ← name.1.string?⟩

def FieldDecl.ofJson? (source : Source) (json : Json) : Option FieldDecl := do
  let [some modifiers, some ty, some name, init] ←
    slots? ["modifiers", "ty", "name", "init"] json | none
  return ⟨← modifiers.1.strings?, ← ty.1.string?, ← name.1.string?,
    ← Expr.optionOfSlot? source init⟩

def MethodDecl.ofJson? (source : Source) (json : Json) : Option MethodDecl := do
  let [some modifiers, some ret, some name, some params, some body] ←
    slots? ["modifiers", "ret", "name", "params", "body"] json | none
  return ⟨← modifiers.1.strings?, ← ret.1.string?, ← name.1.string?,
    ← params.1.list? Param.ofJson?, ← Stmt.blockOfJson? source body.1⟩

def Member.ofJson? (source : Source) (json : Json) : Option Member := do
  let [some trivia, some kind] ← slots? ["trivia", "kind"] json | none
  let trivia ← Comment.listOfJson? trivia.1
  let (tag, some content) ← kind.variant? | none
  match tag with
  | "Class" =>
      let [some modifiers, some name, some members] ←
        content.slots? ["modifiers", "name", "members"] | none
      return ⟨trivia, .classDecl (← modifiers.1.strings?) (← name.1.string?)
        (← (← members.items?).mapM fun member => Member.ofJson? source member.1)⟩
  | "Field" => return ⟨trivia, .field (← FieldDecl.ofJson? source content.1)⟩
  | "Method" => return ⟨trivia, .method (← MethodDecl.ofJson? source content.1)⟩
  | _ => none
termination_by sizeOf json
decreasing_by all_goals exact Part.smaller _

def Program.ofJson? (source : Source) (json : Json) : Option Program := do
  let [some members] ← slots? ["members"] json | none
  return ⟨← members.1.list? (Member.ofJson? source)⟩

end Whittle

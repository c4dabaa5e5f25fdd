import Whittle.Decimal.Notation
import Whittle.Program.Tree
import Whittle.Text.Quoted
import Whittle.Text.Search

/-!
# Programs as text

Text has one declaration or statement per line and four spaces for each
enclosing brace.  What stands on a line of its own never ends with a newline;
its container adds it.

Every function takes the depth of braces around the node, so that the text of a
part can be compared with its text inside the whole, and whether comments are
written.  Characters are produced as a list, which is what proofs look at; the
`text` functions give the same as a string.
-/

namespace Whittle

open Text (joinWith)

/-- How a node is written: with or without comments, inside how many braces. -/
structure Layout where
  comments : Bool
  depth : Nat
deriving Repr, DecidableEq

namespace Layout

/-- The layout one brace further in. -/
def inner (layout : Layout) : Layout :=
  { layout with depth := layout.depth + 1 }

/-- The spaces at the start of a line. -/
def indent (layout : Layout) : List Char :=
  List.replicate (4 * layout.depth) ' '

/-- Braces around lines that are already indented; nothing stands between them if there are none. -/
def braces (layout : Layout) (lines : List Char) : List Char :=
  if lines.isEmpty then ['\x7b', '\x7d']
  else ['\x7b', '\n'] ++ lines ++ layout.indent ++ ['\x7d']

end Layout

/-! ## Comments -/

namespace Comment

/-- The text of the comment without its marks. -/
def body : Comment → String
  | .line text | .block text => text

/-- The comment on a line of its own. -/
def chars : Comment → List Char
  | .line text => "// ".toList ++ text.toList
  | .block text => "/* ".toList ++ text.toList ++ " */".toList

/-- The comment within a line, where only brackets can end it. -/
def inlineChars (comment : Comment) : List Char :=
  "/* ".toList ++ comment.body.toList ++ " */ ".toList

/-- Comments on lines of their own, and the start of the line that follows them. -/
def leading (layout : Layout) (trivia : List Comment) : List Char :=
  if layout.comments then
    trivia.flatMap fun comment => comment.chars ++ '\n' :: layout.indent
  else []

/-- Comments before a statement that stands within a line. -/
def inlined (layout : Layout) (trivia : List Comment) : List Char :=
  if layout.comments then trivia.flatMap inlineChars else []

end Comment

/-! ## Expressions -/

def Literal.chars : Literal → List Char
  | .int value => Decimal.ofInt value.toInt
  | .long value => Decimal.ofInt value.toInt ++ ['L']
  | .double value => Decimal.literalFormat.write value
  | .bool true => "true".toList
  | .bool false => "false".toList
  | .char value => Text.Quoted.char value
  | .string value => Text.Quoted.string value.toList
  | .null => "null".toList

namespace Expr

/-- An operator between two operands. -/
def between (left : List Char) (token : String) (right : List Char) : List Char :=
  left ++ ' ' :: token.toList ++ ' ' :: right

mutual

def chars : Expr → List Char
  | .literal value => value.chars
  | .ident name => name.toList
  | .unary op operand =>
      if op.isPostfix then chars operand ++ op.token.toList
      else op.token.toList ++ chars operand
  | .binary op lhs rhs => between (chars lhs) op.token (chars rhs)
  | .assign op target value => between (chars target) op.token (chars value)
  | .cast ty operand => '(' :: ty.toList ++ ')' :: chars operand
  | .paren inner => '(' :: chars inner ++ [')']
  | .invoke callee args => chars callee ++ '(' :: joinWith [',', ' '] (listChars args) ++ [')']
  | .member target name => chars target ++ '.' :: name.toList
  | .conditional cond thenValue elseValue =>
      between (between (chars cond) "?" (chars thenValue)) ":" (chars elseValue)

def listChars : List Expr → List (List Char)
  | [] => []
  | expr :: rest => chars expr :: listChars rest

end

theorem listChars_eq_map (exprs : List Expr) : listChars exprs = exprs.map chars := by
  induction exprs with
  | nil => rfl
  | cons expr rest ih => simp [listChars, ih]

def commaChars (exprs : List Expr) : List Char :=
  joinWith [',', ' '] (listChars exprs)

/-- What follows the name in a declaration. -/
def initChars : Option Expr → List Char
  | none => []
  | some value => " = ".toList ++ chars value

def text (expr : Expr) : String :=
  String.ofList expr.chars

end Expr

/-! ## Statements -/

/-- A local declaration without what ends it. -/
def LocalDecl.chars (decl : LocalDecl) : List Char :=
  decl.ty.toList ++ ' ' :: decl.name.toList ++ Expr.initChars decl.init

/-- What stands before the first semicolon of a counting loop. -/
def ForInit.chars : Option ForInit → List Char
  | none => []
  | some (.declare decl) => decl.chars
  | some (.run exprs) => Expr.commaChars exprs

namespace StmtForm

/-- What stands between the parentheses of a counting loop. -/
def forHeader (init : Option ForInit) (cond : Option Expr) (update : List Expr) : List Char :=
  let condChars :=
    match cond with
    | none => []
    | some value => ' ' :: value.chars
  let updateChars := if update.isEmpty then [] else ' ' :: Expr.commaChars update
  ForInit.chars init ++ ';' :: condChars ++ ';' :: updateChars

end StmtForm

mutual

/-- A statement on a line of its own, after its comments. -/
def Stmt.chars (layout : Layout) : Stmt → List Char
  | ⟨trivia, form⟩ => Comment.leading layout trivia ++ form.chars layout

/-- A statement that continues a line, as a branch or a loop body does. -/
def Stmt.nestedChars (layout : Layout) : Stmt → List Char
  | ⟨trivia, form⟩ => Comment.inlined layout trivia ++ form.chars layout

/-- A statement without its comments. -/
def StmtForm.chars (layout : Layout) : StmtForm → List Char
  | .block body => layout.braces (Stmt.linesChars layout.inner body)
  | .declare decl => decl.chars ++ [';']
  | .expr value => value.chars ++ [';']
  | .ifElse cond thenBranch none =>
      "if (".toList ++ cond.chars ++ ") ".toList ++ thenBranch.nestedChars layout
  | .ifElse cond thenBranch (some elseBranch) =>
      "if (".toList ++ cond.chars ++ ") ".toList ++ thenBranch.nestedChars layout ++
        " else ".toList ++ elseBranch.nestedChars layout
  | .forLoop init cond update body =>
      "for (".toList ++ StmtForm.forHeader init cond update ++ ") ".toList ++
        body.nestedChars layout
  | .whileLoop cond body =>
      "while (".toList ++ cond.chars ++ ") ".toList ++ body.nestedChars layout
  | .doWhile body cond =>
      "do ".toList ++ body.nestedChars layout ++ " while (".toList ++ cond.chars ++ ");".toList
  | .ret none => "return;".toList
  | .ret (some value) => "return ".toList ++ value.chars ++ [';']
  | .brk => "break;".toList
  | .cont => "continue;".toList
  | .empty => [';']

/-- Statements one to a line. -/
def Stmt.linesChars (layout : Layout) : List Stmt → List Char
  | [] => []
  | stmt :: rest => layout.indent ++ stmt.chars layout ++ '\n' :: Stmt.linesChars layout rest

end

namespace StmtForm

variable (layout : Layout)

@[simp]
theorem chars_block (body : List Stmt) :
    (block body).chars layout = layout.braces (Stmt.linesChars layout.inner body) :=
  rfl

@[simp]
theorem chars_declare (decl : LocalDecl) : (declare decl).chars layout = decl.chars ++ [';'] :=
  rfl

@[simp]
theorem chars_expr (value : Expr) : (expr value).chars layout = value.chars ++ [';'] :=
  rfl

@[simp]
theorem chars_ifElse_none (cond : Expr) (thenBranch : Stmt) :
    (ifElse cond thenBranch none).chars layout =
      "if (".toList ++ cond.chars ++ ") ".toList ++ thenBranch.nestedChars layout :=
  rfl

@[simp]
theorem chars_ifElse_some (cond : Expr) (thenBranch elseBranch : Stmt) :
    (ifElse cond thenBranch (some elseBranch)).chars layout =
      "if (".toList ++ cond.chars ++ ") ".toList ++ thenBranch.nestedChars layout ++
        " else ".toList ++ elseBranch.nestedChars layout :=
  rfl

@[simp]
theorem chars_forLoop (init : Option ForInit) (cond : Option Expr) (update : List Expr)
    (body : Stmt) :
    (forLoop init cond update body).chars layout =
      "for (".toList ++ forHeader init cond update ++ ") ".toList ++ body.nestedChars layout :=
  rfl

@[simp]
theorem chars_whileLoop (cond : Expr) (body : Stmt) :
    (whileLoop cond body).chars layout =
      "while (".toList ++ cond.chars ++ ") ".toList ++ body.nestedChars layout :=
  rfl

@[simp]
theorem chars_doWhile (body : Stmt) (cond : Expr) :
    (doWhile body cond).chars layout =
      "do ".toList ++ body.nestedChars layout ++ " while (".toList ++ cond.chars ++
        ");".toList :=
  rfl

@[simp]
theorem chars_ret_none : (ret none).chars layout = "return;".toList :=
  rfl

@[simp]
theorem chars_ret_some (value : Expr) :
    (ret (some value)).chars layout = "return ".toList ++ value.chars ++ [';'] :=
  rfl

@[simp]
theorem chars_brk : brk.chars layout = "break;".toList :=
  rfl

@[simp]
theorem chars_cont : cont.chars layout = "continue;".toList :=
  rfl

@[simp]
theorem chars_empty : empty.chars layout = [';'] :=
  rfl

end StmtForm

/-- A block by itself. -/
def Stmt.blockChars (layout : Layout) (body : List Stmt) : List Char :=
  layout.braces (Stmt.linesChars layout.inner body)

/-! ## Declarations -/

/-- Modifiers, each followed by a space. -/
def Member.modifierChars (modifiers : List String) : List Char :=
  modifiers.flatMap fun modifier => modifier.toList ++ [' ']

def Param.chars (param : Param) : List Char :=
  param.ty.toList ++ ' ' :: param.name.toList

/-- A field with what ends it. -/
def FieldDecl.chars (decl : FieldDecl) : List Char :=
  Member.modifierChars decl.modifiers ++ decl.ty.toList ++ ' ' :: decl.name.toList ++
    Expr.initChars decl.init ++ [';']

def MethodDecl.chars (layout : Layout) (decl : MethodDecl) : List Char :=
  Member.modifierChars decl.modifiers ++ decl.ret.toList ++ ' ' :: decl.name.toList ++
    '(' :: joinWith [',', ' '] (decl.params.map Param.chars) ++ ") ".toList ++
    Stmt.blockChars layout decl.body

mutual

/-- A declaration after its comments. -/
def Member.chars (layout : Layout) : Member → List Char
  | ⟨trivia, form⟩ => Comment.leading layout trivia ++ form.chars layout

/-- A declaration without its comments. -/
def MemberForm.chars (layout : Layout) : MemberForm → List Char
  | .classDecl modifiers name members =>
      Member.modifierChars modifiers ++ "class ".toList ++ name.toList ++
        ' ' :: layout.braces (Member.linesChars layout.inner members)
  | .field decl => decl.chars
  | .method decl => decl.chars layout

/-- Declarations one to a line. -/
def Member.linesChars (layout : Layout) : List Member → List Char
  | [] => []
  | member :: rest =>
      layout.indent ++ member.chars layout ++ '\n' :: Member.linesChars layout rest

end

/-! ## Whole texts -/

/-- The layout of a text that stands alone. -/
def Layout.outermost (comments : Bool) : Layout := ⟨comments, 0⟩

def Program.text (program : Program) (comments : Bool) : String :=
  String.ofList (Member.linesChars (.outermost comments) program.members)

def Member.text (member : Member) (comments : Bool) : String :=
  String.ofList (member.chars (.outermost comments))

def Stmt.text (stmt : Stmt) (comments : Bool) : String :=
  String.ofList (stmt.chars (.outermost comments))

def Stmt.blockText (body : List Stmt) (comments : Bool) : String :=
  String.ofList (Stmt.blockChars (.outermost comments) body)

end Whittle

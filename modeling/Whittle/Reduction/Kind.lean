/-!
# Kinds of removal

Each kind names one category of code that a pass deletes or simplifies.
-/

namespace Whittle

/-- What a pass removes. -/
inductive RemovalKind where
  | assignment | binary | cast | fieldDeclaration | invocation | literal | memberAccess
  | parenthesized | block | doWhile | forLoop | ifElse | expressionStatement | diagnosticLog
deriving Repr, DecidableEq

namespace RemovalKind

/--
Every kind, in the order in which they are best tried: diagnostic noise first,
then whole statements, then simplifications of expressions.
-/
def all : List RemovalKind :=
  [.diagnosticLog, .forLoop, .doWhile, .ifElse, .block, .expressionStatement,
    .fieldDeclaration, .assignment, .invocation, .memberAccess, .cast, .parenthesized,
    .binary, .literal]

def name : RemovalKind → String
  | .assignment => "assignment"
  | .binary => "binary"
  | .cast => "cast"
  | .fieldDeclaration => "field-declaration"
  | .invocation => "invocation"
  | .literal => "literal"
  | .memberAccess => "member-access"
  | .parenthesized => "parenthesized"
  | .block => "block"
  | .doWhile => "do-while"
  | .forLoop => "for"
  | .ifElse => "if-else"
  | .expressionStatement => "expression-statement"
  | .diagnosticLog => "diagnostic-log"

theorem mem_all (kind : RemovalKind) : kind ∈ all := by
  cases kind <;> decide

def ofName? (name : String) : Option RemovalKind :=
  all.find? (·.name = name)

theorem ofName?_name (kind : RemovalKind) : ofName? kind.name = some kind := by
  cases kind <;> decide

/-- What is said of a name that no kind has. -/
def unknownMessage (name : String) : String :=
  "unknown removal kind: " ++ name

/-- How many kinds are tried before this one. -/
def position (kind : RemovalKind) : Nat :=
  all.idxOf kind

/-- Whether code that mentions a protected variable is left alone by this kind. -/
def guardsMarkers : RemovalKind → Bool
  | .assignment | .fieldDeclaration | .ifElse => true
  | _ => false

/-- Whether this kind only makes sense for all candidates at once. -/
def isBatchOnly : RemovalKind → Bool
  | .diagnosticLog => true
  | _ => false

end RemovalKind

end Whittle

import Whittle.Program.Tree

/-!
# Building programs by hand

Short names for the trees that are built most often: members are static and
have no comments, and a call has a plain name.
-/

namespace Whittle

namespace Member

def ofClass (name : String) (members : List Member) : Member :=
  ⟨[], .classDecl [] name members⟩

/-- A static field. -/
def ofField (ty name : String) (init : Option Expr) : Member :=
  ⟨[], .field ⟨["static"], ty, name, init⟩⟩

/-- A static method. -/
def ofMethod (ret name : String) (params : List Param) (body : List Stmt) : Member :=
  ⟨[], .method ⟨["static"], ret, name, params, body⟩⟩

/-- The member with one more comment before it. -/
def withComment (member : Member) (comment : Comment) : Member :=
  { member with trivia := member.trivia ++ [comment] }

end Member

namespace Stmt

def plain (form : StmtForm) : Stmt := ⟨[], form⟩

/-- The statement with one more comment before it. -/
def withComment (stmt : Stmt) (comment : Comment) : Stmt :=
  { stmt with trivia := stmt.trivia ++ [comment] }

end Stmt

namespace Expr

def int (value : Int64) : Expr := .literal (.int value)

def call (name : String) (args : List Expr) : Expr :=
  .invoke (.ident name) args

end Expr

end Whittle

import Whittle.Program.Outline

/-!
# Names

The names of a node are the texts in it that a program is free to choose, apart
from its comments and constants: names, types, modifiers and those of parameters.
They are written as they are, so what can be said about the text of a program
depends on a rule that they obey.
-/

namespace Whittle

/-- The names, types and modifiers that are written in a node. -/
@[simp]
def Label.names : Label → List String
  | .classDecl modifiers name => modifiers ++ [name]
  | .field modifiers ty name => modifiers ++ [ty, name]
  | .method modifiers result name params =>
      modifiers ++ [result, name] ++ params.flatMap fun param => [param.ty, param.name]
  | .declare ty name => [ty, name]
  | .forLoop (some (ty, name)) => [ty, name]
  | .ident name => [name]
  | .cast ty => [ty]
  | .member name => [name]
  | _ => []

/-- All of some nodes obey a rule. -/
def Node.AllObey (rule : Node → Prop) (nodes : List Node) : Prop :=
  ∀ node ∈ nodes, rule node

namespace Node

open Outline (nodesOfList)

variable {rule : Node → Prop}

instance (nodes : List Node) [DecidablePred rule] : Decidable (AllObey rule nodes) :=
  inferInstanceAs (Decidable (∀ node ∈ nodes, rule node))

@[simp]
theorem allObey_nil : AllObey rule [] := by
  simp [AllObey]

@[simp]
theorem allObey_cons (node : Node) (rest : List Node) :
    AllObey rule (node :: rest) ↔ rule node ∧ AllObey rule rest := by
  simp [AllObey]

@[simp]
theorem allObey_append (first second : List Node) :
    AllObey rule (first ++ second) ↔ AllObey rule first ∧ AllObey rule second := by
  simp [AllObey, or_imp, forall_and]

@[simp]
theorem allObey_node (head : Node) (children : List Outline) :
    AllObey rule (Outline.node head children).nodes ↔
      rule head ∧ AllObey rule (nodesOfList children) := by
  simp [Outline.nodes]

@[simp]
theorem allObey_nodesOfList_nil : AllObey rule (nodesOfList []) :=
  allObey_nil

@[simp]
theorem allObey_nodesOfList_cons (outline : Outline) (rest : List Outline) :
    AllObey rule (nodesOfList (outline :: rest)) ↔
      AllObey rule outline.nodes ∧ AllObey rule (nodesOfList rest) := by
  simp [nodesOfList]

@[simp]
theorem allObey_nodesOfList_append (first second : List Outline) :
    AllObey rule (nodesOfList (first ++ second)) ↔
      AllObey rule (nodesOfList first) ∧ AllObey rule (nodesOfList second) := by
  induction first with
  | nil => simp
  | cons outline rest ih => simp [ih, and_assoc]

end Node

end Whittle

import Whittle.Program.Outline

/-!
# Skeletons

The skeleton of a program keeps the label of every node and puts the parts of a
node into named slots.  It forgets the comments, and it does not tell an empty
list of starting expressions of a counting loop from a missing one.  All nodes
have one shape in it, so what a pass does to a program can be said and proved
once for all constructors.

`read?_skeleton` says that nothing else is forgotten: a skeleton can be read
back, and gives the node it was made of in its normal form.
-/

namespace Whittle

/-! ## Slots and skeletons -/

/-- Where a part stands in its node. -/
inductive Slot where
  /-- An expression that the node is made of: an operand, a callee, a condition. -/
  | operand
  /-- An item of the list that the node is made of: a statement, a member, an argument. -/
  | entry
  /-- The value that a variable starts with, or that is returned. -/
  | initial
  /-- An expression that a counting loop begins with. -/
  | start
  /-- The condition of a counting loop. -/
  | test
  /-- An expression that a counting loop goes on with. -/
  | update
  /-- A branch or the body of a loop. -/
  | body
  /-- The second branch of a choice. -/
  | otherwise
deriving Repr, DecidableEq

/-- Labelled nodes with their parts.  The whole program is the only node without a label. -/
inductive Skeleton where
  | node (label : Option Label) (parts : List (Slot × Skeleton))

namespace Skeleton

/-- The label at the root. -/
def label? : Skeleton → Option Label
  | .node label _ => label

/-- The parts of the root, in the order of the source. -/
def parts : Skeleton → List (Slot × Skeleton)
  | .node _ parts => parts

@[simp]
theorem label?_node (label : Option Label) (parts : List (Slot × Skeleton)) :
    (node label parts).label? = label :=
  rfl

@[simp]
theorem parts_node (label : Option Label) (parts : List (Slot × Skeleton)) :
    (node label parts).parts = parts :=
  rfl

mutual

/-- All skeletons strictly inside, each before those inside it. -/
def descendants : Skeleton → List Skeleton
  | .node _ parts => inParts parts

/-- The parts of a list with all that is inside them. -/
def inParts : List (Slot × Skeleton) → List Skeleton
  | [] => []
  | (_, tree) :: rest => tree :: tree.descendants ++ inParts rest

end

/-- The skeleton itself and all that is inside it. -/
def selfAndDescendants (tree : Skeleton) : List Skeleton :=
  tree :: tree.descendants

@[simp]
theorem inParts_append (first second : List (Slot × Skeleton)) :
    inParts (first ++ second) = inParts first ++ inParts second := by
  induction first with
  | nil => rfl
  | cons part rest ih => simp [inParts, ih]

theorem inParts_eq_flatMap (parts : List (Slot × Skeleton)) :
    inParts parts = parts.flatMap fun part => part.2.selfAndDescendants := by
  induction parts with
  | nil => rfl
  | cons part rest ih => simp [inParts, selfAndDescendants, ih]

theorem mem_descendants_of_mem_parts {tree : Skeleton} {part : Slot × Skeleton}
    (member : part ∈ tree.parts) : part.2 ∈ tree.descendants := by
  cases tree with
  | node label parts =>
      rw [descendants, inParts_eq_flatMap]
      exact List.mem_flatMap.mpr ⟨part, member, List.mem_cons_self ..⟩

mutual

/-- Skeletons are built up from their parts. -/
theorem induct {motive : Skeleton → Prop}
    (node : ∀ label parts, (∀ part ∈ parts, motive part.2) → motive (.node label parts)) :
    (tree : Skeleton) → motive tree
  | .node label parts => node label parts (inductParts node parts)

theorem inductParts {motive : Skeleton → Prop}
    (node : ∀ label parts, (∀ part ∈ parts, motive part.2) → motive (.node label parts)) :
    (parts : List (Slot × Skeleton)) → ∀ part ∈ parts, motive part.2
  | [], part, member => by cases member
  | (slot, tree) :: rest, part, member => by
      rcases List.mem_cons.mp member with rfl | member
      · exact induct node tree
      · exact inductParts node rest part member

end

/-- What holds of a skeleton once it holds of all that is inside it holds of every one. -/
theorem induct_descendants {motive : Skeleton → Prop}
    (node : ∀ tree, (∀ inner ∈ tree.descendants, motive inner) → motive tree)
    (tree : Skeleton) : motive tree := by
  have all : ∀ inner ∈ tree.selfAndDescendants, motive inner := by
    induction tree using Skeleton.induct with
    | node label parts ih =>
        have inside : ∀ inner ∈ (Skeleton.node label parts).descendants, motive inner := by
          intro inner member
          rw [descendants, inParts_eq_flatMap, List.mem_flatMap] at member
          rcases member with ⟨part, isPart, member⟩
          exact ih part isPart inner member
        intro inner member
        rcases List.mem_cons.mp member with rfl | member
        · exact node _ inside
        · exact inside inner member
  exact all tree (List.mem_cons_self ..)

end Skeleton

/-! ## The skeleton of a program -/

mutual

/-- The skeleton of an expression. -/
def Expr.skeleton : Expr → Skeleton
  | .literal value => .node (some (.literal value)) []
  | .ident name => .node (some (.ident name)) []
  | .unary op operand => .node (some (.unary op)) [(.operand, operand.skeleton)]
  | .binary op lhs rhs =>
      .node (some (.binary op)) [(.operand, lhs.skeleton), (.operand, rhs.skeleton)]
  | .assign op target value =>
      .node (some (.assign op)) [(.operand, target.skeleton), (.operand, value.skeleton)]
  | .cast ty operand => .node (some (.cast ty)) [(.operand, operand.skeleton)]
  | .paren inner => .node (some .paren) [(.operand, inner.skeleton)]
  | .invoke callee args =>
      .node (some .invoke) ((.operand, callee.skeleton) :: Expr.inSlot .entry args)
  | .member target name => .node (some (.member name)) [(.operand, target.skeleton)]
  | .conditional cond thenValue elseValue =>
      .node (some .conditional)
        [(.operand, cond.skeleton), (.operand, thenValue.skeleton),
          (.operand, elseValue.skeleton)]

/-- The skeletons of expressions that stand in the same slot. -/
def Expr.inSlot (slot : Slot) : List Expr → List (Slot × Skeleton)
  | [] => []
  | expr :: rest => (slot, expr.skeleton) :: Expr.inSlot slot rest

end

/-- The skeleton of an expression that may be missing. -/
def Expr.optionInSlot (slot : Slot) : Option Expr → List (Slot × Skeleton)
  | none => []
  | some expr => [(slot, expr.skeleton)]

/-- The skeletons at the start of a counting loop. -/
def ForInit.inSlots : Option ForInit → List (Slot × Skeleton)
  | none => []
  | some (.declare decl) => Expr.optionInSlot .initial decl.init
  | some (.run exprs) => Expr.inSlot .start exprs

mutual

/-- The skeleton of a statement. -/
def Stmt.skeleton : Stmt → Skeleton
  | ⟨_, form⟩ => .node (some form.label) form.inSlots

/-- The skeletons of what a statement is made of. -/
def StmtForm.inSlots : StmtForm → List (Slot × Skeleton)
  | .block body => Stmt.entries body
  | .declare decl => Expr.optionInSlot .initial decl.init
  | .expr value => [(.operand, value.skeleton)]
  | .ifElse cond thenBranch none => [(.operand, cond.skeleton), (.body, thenBranch.skeleton)]
  | .ifElse cond thenBranch (some elseBranch) =>
      [(.operand, cond.skeleton), (.body, thenBranch.skeleton),
        (.otherwise, elseBranch.skeleton)]
  | .forLoop init cond update body =>
      ForInit.inSlots init ++ Expr.optionInSlot .test cond ++ Expr.inSlot .update update ++
        [(.body, body.skeleton)]
  | .whileLoop cond body => [(.operand, cond.skeleton), (.body, body.skeleton)]
  | .doWhile body cond => [(.body, body.skeleton), (.operand, cond.skeleton)]
  | .ret value => Expr.optionInSlot .initial value
  | .brk => []
  | .cont => []
  | .empty => []

/-- The skeletons of the statements of a block. -/
def Stmt.entries : List Stmt → List (Slot × Skeleton)
  | [] => []
  | stmt :: rest => (.entry, stmt.skeleton) :: Stmt.entries rest

end

mutual

/-- The skeleton of a declaration. -/
def Member.skeleton : Member → Skeleton
  | ⟨_, form⟩ => .node (some form.label) form.inSlots

/-- The skeletons of what a declaration is made of. -/
def MemberForm.inSlots : MemberForm → List (Slot × Skeleton)
  | .classDecl _ _ members => Member.entries members
  | .field decl => Expr.optionInSlot .initial decl.init
  | .method decl => Stmt.entries decl.body

/-- The skeletons of the declarations of a list. -/
def Member.entries : List Member → List (Slot × Skeleton)
  | [] => []
  | member :: rest => (.entry, member.skeleton) :: Member.entries rest

end

/-- The skeleton of a node. -/
def Node.skeleton : Node → Skeleton
  | .member value => value.skeleton
  | .stmt value => value.skeleton
  | .expr value => value.skeleton

/-- The skeleton of a program: its members are the parts of a node without a label. -/
def Program.skeleton (program : Program) : Skeleton :=
  .node none (Member.entries program.members)

@[simp]
theorem Node.label?_skeleton (node : Node) : node.skeleton.label? = some node.label := by
  cases node with
  | member value =>
      cases value
      simp [Node.skeleton, Member.skeleton, Node.label]
  | stmt value =>
      cases value
      simp [Node.skeleton, Stmt.skeleton, Node.label]
  | expr value => cases value <;> simp [Node.skeleton, Expr.skeleton, Node.label, Expr.label]

/-- The label of a binary expression is that of no other node. -/
theorem Node.exists_of_label_binary {node : Node} {op : BinaryOp}
    (isBinary : node.label = .binary op) : ∃ lhs rhs, node = .expr (.binary op lhs rhs) := by
  cases node with
  | member value =>
      rcases value with ⟨_, form⟩
      cases form <;> cases isBinary
  | stmt value =>
      rcases value with ⟨_, form⟩
      cases form <;> cases isBinary
  | expr value =>
      cases value with
      | binary op lhs rhs =>
          cases isBinary
          exact ⟨lhs, rhs, rfl⟩
      | _ => cases isBinary

/-- The label of parentheses is that of no other node. -/
theorem Node.exists_of_label_paren {node : Node} (isParen : node.label = .paren) :
    ∃ inner, node = .expr (.paren inner) := by
  cases node with
  | member value =>
      rcases value with ⟨_, form⟩
      cases form <;> cases isParen
  | stmt value =>
      rcases value with ⟨_, form⟩
      cases form <;> cases isParen
  | expr value =>
      cases value with
      | paren inner => exact ⟨inner, rfl⟩
      | _ => cases isParen

/-! ## The order of the walk -/

namespace Outline

mutual

/-- The outline has the nodes of a skeleton in the same places. -/
def Mirrors : Outline → Skeleton → Prop
  | .node head children, tree => head.skeleton = tree ∧ MirrorParts children tree.parts

/-- The outlines have the nodes of a list of parts, one outline for each part. -/
def MirrorParts : List Outline → List (Slot × Skeleton) → Prop
  | [], [] => True
  | outline :: rest, (_, tree) :: parts => outline.Mirrors tree ∧ MirrorParts rest parts
  | _, _ => False

end

theorem MirrorParts.append {first second : List Outline} {before after : List (Slot × Skeleton)}
    (ofFirst : MirrorParts first before) (ofSecond : MirrorParts second after) :
    MirrorParts (first ++ second) (before ++ after) := by
  induction first generalizing before with
  | nil =>
      cases before with
      | nil => exact ofSecond
      | cons part rest => exact ofFirst.elim
  | cons outline rest ih =>
      cases before with
      | nil => exact ofFirst.elim
      | cons part parts => exact ⟨ofFirst.1, ih ofFirst.2⟩

mutual

/-- The walk meets the nodes of a skeleton in the order of the skeleton. -/
theorem Mirrors.nodes_map_skeleton :
    (outline : Outline) → (tree : Skeleton) → outline.Mirrors tree →
      outline.nodes.map Node.skeleton = tree.selfAndDescendants
  | .node head children, .node label parts, mirrors => by
      have ofChildren := MirrorParts.nodes_map_skeleton children parts mirrors.2
      simp [Outline.nodes, Skeleton.selfAndDescendants, Skeleton.descendants, mirrors.1, ofChildren]

theorem MirrorParts.nodes_map_skeleton :
    (outlines : List Outline) → (parts : List (Slot × Skeleton)) → MirrorParts outlines parts →
      (nodesOfList outlines).map Node.skeleton = Skeleton.inParts parts
  | [], [], _ => rfl
  | outline :: rest, (_, tree) :: parts, mirror => by
      have head := Mirrors.nodes_map_skeleton outline tree mirror.1
      have tail := MirrorParts.nodes_map_skeleton rest parts mirror.2
      simp [Outline.nodesOfList, Skeleton.inParts, head, tail, Skeleton.selfAndDescendants]

end

end Outline

open Outline (Mirrors MirrorParts)

mutual

theorem Expr.outline_mirrors : (expr : Expr) → expr.outline.Mirrors expr.skeleton
  | .literal _ => ⟨rfl, trivial⟩
  | .ident _ => ⟨rfl, trivial⟩
  | .unary _ operand => ⟨rfl, operand.outline_mirrors, trivial⟩
  | .binary _ lhs rhs => ⟨rfl, lhs.outline_mirrors, rhs.outline_mirrors, trivial⟩
  | .assign _ target value => ⟨rfl, target.outline_mirrors, value.outline_mirrors, trivial⟩
  | .cast _ operand => ⟨rfl, operand.outline_mirrors, trivial⟩
  | .paren inner => ⟨rfl, inner.outline_mirrors, trivial⟩
  | .invoke callee args =>
      ⟨rfl, callee.outline_mirrors, Expr.outlines_mirror .entry args⟩
  | .member target _ => ⟨rfl, target.outline_mirrors, trivial⟩
  | .conditional cond thenValue elseValue =>
      ⟨rfl, cond.outline_mirrors, thenValue.outline_mirrors, elseValue.outline_mirrors, trivial⟩

theorem Expr.outlines_mirror (slot : Slot) :
    (exprs : List Expr) → MirrorParts (Expr.outlines exprs) (Expr.inSlot slot exprs)
  | [] => trivial
  | expr :: rest => ⟨expr.outline_mirrors, Expr.outlines_mirror slot rest⟩

end

theorem Expr.optionOutline_mirror (slot : Slot) (expr : Option Expr) :
    MirrorParts (Expr.optionOutline expr) (Expr.optionInSlot slot expr) := by
  cases expr with
  | none => trivial
  | some value => exact ⟨value.outline_mirrors, trivial⟩

theorem ForInit.outlines_mirror (init : Option ForInit) :
    MirrorParts (ForInit.outlines init) (ForInit.inSlots init) := by
  match init with
  | none => trivial
  | some (.declare decl) => exact Expr.optionOutline_mirror .initial decl.init
  | some (.run exprs) => exact Expr.outlines_mirror .start exprs

mutual

theorem Stmt.outline_mirrors : (stmt : Stmt) → stmt.outline.Mirrors stmt.skeleton
  | ⟨_, form⟩ => ⟨rfl, form.children_mirror⟩

theorem StmtForm.children_mirror : (form : StmtForm) → MirrorParts form.children form.inSlots
  | .block body => Stmt.outlines_mirror body
  | .declare decl => Expr.optionOutline_mirror .initial decl.init
  | .expr value => ⟨value.outline_mirrors, trivial⟩
  | .ifElse cond thenBranch none =>
      ⟨cond.outline_mirrors, thenBranch.outline_mirrors, trivial⟩
  | .ifElse cond thenBranch (some elseBranch) =>
      ⟨cond.outline_mirrors, thenBranch.outline_mirrors, elseBranch.outline_mirrors, trivial⟩
  | .forLoop init cond update body =>
      (((ForInit.outlines_mirror init).append (Expr.optionOutline_mirror .test cond)).append
        (Expr.outlines_mirror .update update)).append ⟨body.outline_mirrors, trivial⟩
  | .whileLoop cond body => ⟨cond.outline_mirrors, body.outline_mirrors, trivial⟩
  | .doWhile body cond => ⟨body.outline_mirrors, cond.outline_mirrors, trivial⟩
  | .ret value => Expr.optionOutline_mirror .initial value
  | .brk => trivial
  | .cont => trivial
  | .empty => trivial

theorem Stmt.outlines_mirror :
    (stmts : List Stmt) → MirrorParts (Stmt.outlines stmts) (Stmt.entries stmts)
  | [] => trivial
  | stmt :: rest => ⟨stmt.outline_mirrors, Stmt.outlines_mirror rest⟩

end

mutual

theorem Member.outline_mirrors : (member : Member) → member.outline.Mirrors member.skeleton
  | ⟨_, form⟩ => ⟨rfl, form.children_mirror⟩

theorem MemberForm.children_mirror : (form : MemberForm) → MirrorParts form.children form.inSlots
  | .classDecl _ _ members => Member.outlines_mirror members
  | .field decl => Expr.optionOutline_mirror .initial decl.init
  | .method decl => Stmt.outlines_mirror decl.body

theorem Member.outlines_mirror :
    (members : List Member) → MirrorParts (Member.outlines members) (Member.entries members)
  | [] => trivial
  | member :: rest => ⟨member.outline_mirrors, Member.outlines_mirror rest⟩

end

theorem Node.outline_mirrors (node : Node) : node.outline.Mirrors node.skeleton := by
  cases node with
  | member value => exact value.outline_mirrors
  | stmt value => exact value.outline_mirrors
  | expr value => exact value.outline_mirrors

/-- The nodes of a program are those of its skeleton, in the same order. -/
theorem Program.nodes_map_skeleton (program : Program) :
    program.nodes.map Node.skeleton = program.skeleton.descendants :=
  MirrorParts.nodes_map_skeleton _ _ (Member.outlines_mirror program.members)

end Whittle

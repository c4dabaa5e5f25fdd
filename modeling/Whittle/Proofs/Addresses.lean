import Mathlib.Data.List.Lex
import Whittle.Program.Outline

/-!
# Addresses

A node of a program is found by its address: which of the members it is in, then
which of the nodes directly below that one, and so on.  What is directly below a
node is counted in the order of the source, so a node comes before another one
in the source exactly if its address does in the order of a dictionary.

The places of an outline are its nodes with their addresses.  They are all the
nodes that addresses lead to, each once and in order (`mem_addressedNodes_iff`,
`addressedNodes_ascending`).
-/

namespace Whittle

/-! ## What is directly below a node -/

/-- The expressions directly below an expression, from left to right. -/
def Expr.exprsBelow : Expr → List Expr
  | .literal _ | .ident _ => []
  | .unary _ operand | .cast _ operand | .paren operand | .member operand _ => [operand]
  | .binary _ lhs rhs => [lhs, rhs]
  | .assign _ target value => [target, value]
  | .invoke callee args => callee :: args
  | .conditional cond thenValue elseValue => [cond, thenValue, elseValue]

/-- The expressions at the start of a counting loop. -/
def ForInit.exprsBelow : Option ForInit → List Expr
  | none => []
  | some (.declare decl) => decl.init.toList
  | some (.run exprs) => exprs

/-- The nodes directly below a statement: a loop that tests after its body has the body first. -/
def StmtForm.nodesBelow : StmtForm → List Node
  | .block body => body.map .stmt
  | .declare decl => decl.init.toList.map .expr
  | .expr value => [.expr value]
  | .ifElse cond thenBranch elseBranch =>
      .expr cond :: .stmt thenBranch :: elseBranch.toList.map .stmt
  | .forLoop init cond update body =>
      (ForInit.exprsBelow init ++ cond.toList ++ update).map .expr ++ [.stmt body]
  | .whileLoop cond body => [.expr cond, .stmt body]
  | .doWhile body cond => [.stmt body, .expr cond]
  | .ret value => value.toList.map .expr
  | .brk | .cont | .empty => []

/-- The nodes directly below a declaration. -/
def MemberForm.nodesBelow : MemberForm → List Node
  | .classDecl _ _ members => members.map .member
  | .field decl => decl.init.toList.map .expr
  | .method decl => decl.body.map .stmt

namespace Node

/-- The nodes directly below a node, in the order of the source. -/
def nodesBelow : Node → List Node
  | .member value => value.form.nodesBelow
  | .stmt value => value.form.nodesBelow
  | .expr value => value.exprsBelow.map .expr

/-- The node that is reached from a node by an address. -/
def nodeAt? : Node → List Nat → Option Node
  | node, [] => some node
  | node, index :: path => node.nodesBelow[index]?.bind fun inner => inner.nodeAt? path

end Node

/-- The node with an address: the first number tells the member that it is in. -/
def Program.nodeAt? (program : Program) : List Nat → Option Node
  | [] => none
  | index :: path =>
      program.members[index]?.bind fun member => (Node.member member).nodeAt? path

/-! ## Outlines follow the source -/

theorem Expr.outlines_eq_map (exprs : List Expr) : Expr.outlines exprs = exprs.map outline := by
  induction exprs with
  | nil => rfl
  | cons expr rest ih => rw [Expr.outlines, List.map_cons, ih]

theorem Stmt.outlines_eq_map (stmts : List Stmt) : Stmt.outlines stmts = stmts.map outline := by
  induction stmts with
  | nil => rfl
  | cons stmt rest ih => rw [Stmt.outlines, List.map_cons, ih]

theorem Member.outlines_eq_map (members : List Member) :
    Member.outlines members = members.map outline := by
  induction members with
  | nil => rfl
  | cons member rest ih => rw [Member.outlines, List.map_cons, ih]

theorem Expr.optionOutline_eq_map (value : Option Expr) :
    Expr.optionOutline value = value.toList.map outline := by
  cases value <;> rfl

theorem ForInit.outlines_eq_map (init : Option ForInit) :
    ForInit.outlines init = (ForInit.exprsBelow init).map Expr.outline := by
  match init with
  | none => rfl
  | some (.declare decl) => exact Expr.optionOutline_eq_map decl.init
  | some (.run exprs) => exact Expr.outlines_eq_map exprs

theorem StmtForm.children_eq_map (form : StmtForm) :
    form.children = form.nodesBelow.map Node.outline := by
  have exprs (values : List Expr) :
      (values.map Node.expr).map Node.outline = values.map Expr.outline := by
    simp [Function.comp_def, Node.outline]
  cases form with
  | block body =>
      simp [children, nodesBelow, Stmt.outlines_eq_map, Function.comp_def, Node.outline]
  | declare decl => rw [children, nodesBelow, exprs, Expr.optionOutline_eq_map]
  | ifElse cond thenBranch elseBranch => cases elseBranch <;> rfl
  | forLoop init cond update body =>
      rw [children, nodesBelow, List.map_append, exprs, ForInit.outlines_eq_map,
        Expr.optionOutline_eq_map, Expr.outlines_eq_map, List.map_append, List.map_append]
      rfl
  | ret value => rw [children, nodesBelow, exprs, Expr.optionOutline_eq_map]
  | _ => rfl

theorem MemberForm.children_eq_map (form : MemberForm) :
    form.children = form.nodesBelow.map Node.outline := by
  cases form with
  | classDecl modifiers name members =>
      simp [children, nodesBelow, Member.outlines_eq_map, Function.comp_def, Node.outline]
  | field decl =>
      simp [children, nodesBelow, Expr.optionOutline_eq_map, Function.comp_def, Node.outline]
  | method decl =>
      simp [children, nodesBelow, Stmt.outlines_eq_map, Function.comp_def, Node.outline]

/-- The outline of a node has the outlines of what is directly below it, in the same order. -/
theorem Node.outline_eq (node : Node) :
    node.outline = .node node (node.nodesBelow.map Node.outline) := by
  cases node with
  | member value =>
      rcases value with ⟨trivia, form⟩
      rw [outline, nodesBelow, Member.outline, MemberForm.children_eq_map]
  | stmt value =>
      rcases value with ⟨trivia, form⟩
      rw [outline, nodesBelow, Stmt.outline, StmtForm.children_eq_map]
  | expr value =>
      cases value with
      | invoke callee args =>
          simp [outline, nodesBelow, Expr.outline, Expr.exprsBelow, Expr.outlines_eq_map, Function.comp_def]
      | _ => rfl

theorem Program.outlines_eq_map (program : Program) :
    program.outlines = program.members.map fun member => (Node.member member).outline :=
  Member.outlines_eq_map program.members

/-! ## Places -/

/-- A node with its address. -/
structure Place where
  address : List Nat
  node : Node

namespace Outline

mutual

/-- The places of an outline that stands at an address, each before those below it. -/
def placesAt (address : List Nat) : Outline → List Place
  | .node head children => ⟨address, head⟩ :: placesBelow address 0 children

/-- The places of outlines directly below an address; the first of them has the given index. -/
def placesBelow (address : List Nat) (index : Nat) : List Outline → List Place
  | [] => []
  | outline :: rest =>
      outline.placesAt (address ++ [index]) ++ placesBelow address (index + 1) rest

end

/-- The node that is reached from the root of an outline by an address. -/
def nodeAt? : Outline → List Nat → Option Node
  | .node head _, [] => some head
  | .node _ children, index :: path => children[index]?.bind fun inner => inner.nodeAt? path

mutual

theorem map_node_placesAt (address : List Nat) :
    (outline : Outline) → (outline.placesAt address).map Place.node = outline.nodes
  | .node head children => by
      simp [placesAt, nodes, map_node_placesBelow address 0 children]

theorem map_node_placesBelow (address : List Nat) (index : Nat) :
    (outlines : List Outline) →
      (placesBelow address index outlines).map Place.node = nodesOfList outlines
  | [] => rfl
  | outline :: rest => by
      simp [placesBelow, nodesOfList, map_node_placesAt (address ++ [index]) outline,
        map_node_placesBelow address (index + 1) rest]

end

mutual

/-- The places of an outline are the nodes that addresses lead to from its root. -/
theorem mem_placesAt_iff (address : List Nat) (place : Place) :
    (outline : Outline) → (place ∈ outline.placesAt address ↔
      ∃ path, place.address = address ++ path ∧ outline.nodeAt? path = some place.node)
  | .node head children => by
      rcases place with ⟨found, node⟩
      rw [placesAt, List.mem_cons, mem_placesBelow_iff address ⟨found, node⟩ 0 children]
      constructor
      · rintro (here | ⟨index, path, equal, reached⟩)
        · cases here
          exact ⟨[], by simp, rfl⟩
        · rw [Nat.zero_add] at equal
          exact ⟨index :: path, equal, reached⟩
      · rintro ⟨path, equal, reached⟩
        cases path with
        | nil =>
            left
            simp only [nodeAt?, Option.some.injEq] at reached
            simp only [List.append_nil] at equal
            rw [equal, reached]
        | cons index path =>
            right
            exact ⟨index, path, by rw [Nat.zero_add]; exact equal, reached⟩

theorem mem_placesBelow_iff (address : List Nat) (place : Place) (first : Nat) :
    (outlines : List Outline) → (place ∈ placesBelow address first outlines ↔
      ∃ index path, place.address = address ++ (first + index) :: path ∧
        (outlines[index]?.bind fun inner => inner.nodeAt? path) = some place.node)
  | [] => by simp [placesBelow]
  | outline :: rest => by
      rw [placesBelow, List.mem_append, mem_placesAt_iff (address ++ [first]) place outline,
        mem_placesBelow_iff address place (first + 1) rest]
      constructor
      · rintro (⟨path, equal, reached⟩ | ⟨index, path, equal, reached⟩)
        · exact ⟨0, path, by simpa using equal, by simpa using reached⟩
        · refine ⟨index + 1, path, ?_, by simpa using reached⟩
          rw [equal, Nat.add_assoc, Nat.add_comm 1]
      · rintro ⟨index, path, equal, reached⟩
        cases index with
        | zero => exact .inl ⟨path, by simpa using equal, by simpa using reached⟩
        | succ index =>
            refine .inr ⟨index, path, ?_, by simpa using reached⟩
            rw [equal, Nat.add_assoc, Nat.add_comm 1]

end

theorem prefix_of_mem_placesAt {address : List Nat} {outline : Outline} {place : Place}
    (isIn : place ∈ outline.placesAt address) : address <+: place.address := by
  obtain ⟨path, equal, -⟩ := (mem_placesAt_iff address place outline).1 isIn
  exact ⟨path, equal.symm⟩

theorem exists_of_mem_placesBelow {address : List Nat} {first : Nat} {outlines : List Outline}
    {place : Place} (isIn : place ∈ placesBelow address first outlines) :
    ∃ index path, first ≤ index ∧ place.address = address ++ index :: path := by
  obtain ⟨index, path, equal, -⟩ := (mem_placesBelow_iff address place first outlines).1 isIn
  exact ⟨first + index, path, Nat.le_add_right .., equal⟩

mutual

/-- Addresses ascend, in the order of a dictionary, from each place to all later ones. -/
theorem placesAt_ascending (address : List Nat) :
    (outline : Outline) →
      (outline.placesAt address).Pairwise fun place later => place.address < later.address
  | .node head children => by
      rw [placesAt, List.pairwise_cons]
      refine ⟨?_, placesBelow_ascending address 0 children⟩
      intro later isLater
      obtain ⟨index, path, -, equal⟩ := exists_of_mem_placesBelow isLater
      show address < later.address
      rw [equal]
      conv_lhs => rw [← List.append_nil address]
      exact List.Lex.append_left _ .nil address

theorem placesBelow_ascending (address : List Nat) (first : Nat) :
    (outlines : List Outline) →
      (placesBelow address first outlines).Pairwise
        fun place later => place.address < later.address
  | [] => .nil
  | outline :: rest => by
      rw [placesBelow, List.pairwise_append]
      refine ⟨placesAt_ascending _ outline, placesBelow_ascending address (first + 1) rest, ?_⟩
      intro place isEarlier later isLater
      obtain ⟨path, equal⟩ := prefix_of_mem_placesAt isEarlier
      obtain ⟨index, laterPath, beyond, laterEqual⟩ := exists_of_mem_placesBelow isLater
      rw [← equal, laterEqual, List.append_assoc]
      exact List.Lex.append_left _ (.rel (Nat.lt_of_succ_le beyond)) address

end

end Outline

/-- An address leads to the same node in the outline of a node as in the node itself. -/
theorem Node.nodeAt?_outline (node : Node) (path : List Nat) :
    node.outline.nodeAt? path = node.nodeAt? path := by
  induction path generalizing node with
  | nil => rw [node.outline_eq, Outline.nodeAt?, Node.nodeAt?]
  | cons index path ih =>
      rw [node.outline_eq, Outline.nodeAt?, Node.nodeAt?, List.getElem?_map]
      cases node.nodesBelow[index]? with
      | none => rfl
      | some inner => exact ih inner

namespace Program

/-- Every node of a program with its address, in the order of the source. -/
def addressedNodes (program : Program) : List Place :=
  Outline.placesBelow [] 0 program.outlines

theorem map_node_addressedNodes (program : Program) :
    program.addressedNodes.map Place.node = program.nodes :=
  Outline.map_node_placesBelow [] 0 program.outlines

/-- The places of a program are the nodes that addresses lead to. -/
theorem mem_addressedNodes_iff (program : Program) (place : Place) :
    place ∈ program.addressedNodes ↔ program.nodeAt? place.address = some place.node := by
  rw [addressedNodes, Outline.mem_placesBelow_iff, outlines_eq_map]
  have reach (index : Nat) (path : List Nat) :
      ((program.members.map fun member => (Node.member member).outline)[index]?.bind
          fun inner => inner.nodeAt? path) = program.nodeAt? (index :: path) := by
    rw [List.getElem?_map, nodeAt?]
    cases program.members[index]? with
    | none => rfl
    | some member => exact (Node.member member).nodeAt?_outline path
  constructor
  · rintro ⟨index, path, equal, reached⟩
    rw [Nat.zero_add, List.nil_append] at equal
    rw [equal, ← reach, reached]
  · intro reached
    cases address : place.address with
    | nil => rw [address, nodeAt?] at reached; cases reached
    | cons index path =>
        refine ⟨index, path, by rw [Nat.zero_add, List.nil_append], ?_⟩
        rw [reach, ← address, reached]

/-- The places of a program are in the order of the source. -/
theorem addressedNodes_ascending (program : Program) :
    program.addressedNodes.Pairwise fun place later => place.address < later.address :=
  Outline.placesBelow_ascending [] 0 program.outlines

end Program

end Whittle

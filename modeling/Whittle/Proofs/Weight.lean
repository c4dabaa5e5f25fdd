import Mathlib.Order.WellFounded
import Whittle.Proofs.MarkerSurvival

/-!
# Weights

Every pass that does not leave a program as it is leaves a lighter one, whatever
the kinds, options and modes of the passes before and after it.

The number of nodes does not do as a weight.  The empty statement that takes the
place of a body counts as a node, so it weighs less than any other; and a
simplified expression can have as many nodes as before, so a binary expression
that can still be simplified weighs more.  A node that is not selected may become
such an expression when its parts are rebuilt.  That is why what is inside of a
node counts twice.

Comments and empty lists of starting expressions are not in the skeleton.  They
are counted apart, and no pass leaves any.
-/

namespace Whittle

/-! ## The weight of a skeleton -/

namespace Skeleton

/-- Whether the node is a binary expression that can still be simplified. -/
def isUnsimplified (tree : Skeleton) : Bool :=
  (Pass.mk .binary .standard).isCandidateAt tree

/-- The empty statement weighs less than any other node. -/
def labelWeight : Option Label → Nat
  | some .empty => 1
  | _ => 2

/-- The weight of a node without its parts. -/
def ownWeight (tree : Skeleton) : Nat :=
  labelWeight tree.label? + tree.isUnsimplified.toNat

mutual

/-- The weight of a node. -/
def weight : Skeleton → Nat
  | .node label parts => (Skeleton.node label parts).ownWeight + 2 * weightOfParts parts

/-- The weight of the parts of a node. -/
def weightOfParts : List (Slot × Skeleton) → Nat
  | [] => 0
  | (_, tree) :: rest => tree.weight + weightOfParts rest

end

@[simp]
theorem weightOfParts_append (first second : List (Slot × Skeleton)) :
    weightOfParts (first ++ second) = weightOfParts first + weightOfParts second := by
  induction first with
  | nil => simp [weightOfParts]
  | cons part rest ih => simp [weightOfParts, ih, Nat.add_assoc]

theorem labelWeight_pos (label : Option Label) : 0 < labelWeight label := by
  unfold labelWeight
  split <;> omega

theorem labelWeight_of_ne {label : Option Label} (other : label ≠ some .empty) :
    labelWeight label = 2 := by
  unfold labelWeight
  split
  · exact (other rfl).elim
  · rfl

theorem ownWeight_pos (tree : Skeleton) : 0 < tree.ownWeight := by
  have ofLabel := labelWeight_pos tree.label?
  rw [ownWeight]
  omega

theorem weight_eq (tree : Skeleton) :
    tree.weight = tree.ownWeight + 2 * weightOfParts tree.parts := by
  cases tree with
  | node label parts => rw [weight, parts_node]

theorem weight_pos (tree : Skeleton) : 0 < tree.weight := by
  have own := tree.ownWeight_pos
  rw [weight_eq]
  omega

/-- The empty statement is the lightest node. -/
@[simp]
theorem weight_nothing : nothing.weight = 1 :=
  rfl

theorem one_lt_weight {tree : Skeleton} (other : tree ≠ nothing) : 1 < tree.weight := by
  rcases tree with ⟨label, parts⟩
  rw [weight_eq, parts_node]
  by_cases empty : label = some .empty
  · cases parts with
    | nil => exact (other (by rw [empty, nothing])).elim
    | cons part rest =>
        have own := (node label (part :: rest)).ownWeight_pos
        have ofPart := part.2.weight_pos
        rw [weightOfParts]
        omega
  · rw [ownWeight, label?_node, labelWeight_of_ne empty]
    omega

theorem one_lt_weight_skeleton (expr : Expr) : 1 < expr.skeleton.weight := by
  refine one_lt_weight fun isNothing => ?_
  cases expr <;> cases isNothing

theorem weight_le_of_mem {part : Slot × Skeleton} {parts : List (Slot × Skeleton)}
    (member : part ∈ parts) : part.2.weight ≤ weightOfParts parts := by
  induction parts with
  | nil => cases member
  | cons first rest ih =>
      rw [weightOfParts]
      rcases List.mem_cons.mp member with rfl | inRest
      · omega
      · have ofRest := ih inRest
        omega

/-- A node with lighter parts is lighter, even if it can be simplified now. -/
theorem weight_node_lt {label : Option Label} {parts parts' : List (Slot × Skeleton)}
    (less : weightOfParts parts' < weightOfParts parts) :
    (node label parts').weight < (node label parts).weight := by
  have raised := (node label parts').isUnsimplified.toNat_le
  rw [weight_eq, weight_eq (node label parts)]
  simp only [ownWeight, label?_node, parts_node]
  omega

theorem weight_lt_of_mem_descendants {tree inner : Skeleton} (isInside : inner ∈ tree.descendants) :
    inner.weight < tree.weight := by
  induction tree using Skeleton.induct with
  | node label parts ih =>
      rw [descendants, inParts_eq_flatMap, List.mem_flatMap] at isInside
      rcases isInside with ⟨part, isPart, isInside⟩
      have ofPart := weight_le_of_mem isPart
      have own := (node label parts).ownWeight_pos
      rw [weight_eq (node label parts), parts_node]
      rcases List.mem_cons.mp isInside with rfl | deeper
      · omega
      · have ofInner := ih part isPart deeper
        omega

/-! ## What takes the place of a candidate -/

theorem isUnsimplified_skeleton (expr : Expr) :
    expr.skeleton.isUnsimplified = (Pass.mk .binary .standard).matchesExpr expr := by
  refine (Pass.isCandidateAt_skeleton ⟨.binary, .standard⟩ (.expr expr)).trans ?_
  simp [Pass.isCandidate, Pass.matchesNode, Pass.shields, RemovalKind.guardsMarkers]

theorem weight_canonical (op : BinaryOp) : op.canonical.skeleton.weight = 10 := by
  have own : op.canonical.skeleton.ownWeight = 2 := by
    rw [ownWeight, isUnsimplified_skeleton]
    simp [Pass.matchesExpr, BinaryOp.canonical, Expr.skeleton, labelWeight]
  have literal (value : Literal) : (Expr.literal value).skeleton.weight = 2 := by
    rw [weight_eq, ownWeight, isUnsimplified_skeleton]
    simp [Pass.matchesExpr, Expr.skeleton, weightOfParts, labelWeight]
  rw [weight_eq, own, BinaryOp.canonical, Expr.skeleton, parts_node]
  simp only [weightOfParts, literal]

section Pass

variable {pass : Pass} {tree after : Skeleton}

theorem weight_canonical_lt (binary : pass.kind = .binary) {op : BinaryOp} {lhs rhs : Expr}
    (candidate : pass.isCandidate (.expr (.binary op lhs rhs)) = true) :
    op.canonical.skeleton.weight < (Expr.binary op lhs rhs).skeleton.weight := by
  have unsimplified : (Expr.binary op lhs rhs).skeleton.isUnsimplified = true := by
    simp only [Pass.isCandidate, Bool.and_eq_true, Pass.matchesNode] at candidate
    rw [isUnsimplified_skeleton]
    simpa [Pass.matchesExpr, binary] using candidate.1
  have left := one_lt_weight_skeleton lhs
  have right := one_lt_weight_skeleton rhs
  rw [weight_canonical, weight_eq, ownWeight, unsimplified, Expr.skeleton]
  simp only [label?_node, parts_node, weightOfParts, labelWeight, Bool.toNat_true]
  omega

theorem weight_emptied_lt (block : pass.kind = .block) {parts : List (Slot × Skeleton)}
    (candidate : pass.isCandidateAt (node (some .block) parts) = true) :
    (node (some .block) []).weight < (node (some .block) parts).weight := by
  cases parts with
  | nil =>
      have sweeps : pass.sweepsAt .entry (node (some .block) []) = true := by
        simp [Pass.sweepsAt, block]
      have none := candidatesIn_of_sweepsAt pass sweeps
      simp [candidatesIn_eq, candidate] at none
  | cons part rest =>
      have ofPart := part.2.weight_pos
      refine weight_node_lt ?_
      simp only [weightOfParts]
      omega

/-- What a candidate is simplified to is lighter. -/
theorem weight_lt_of_replacement (isNode : tree.IsNode)
    (candidate : pass.isCandidateAt tree = true) (final : pass.kind.revisits = false)
    (replaced : pass.replacement tree = some after) : after.weight < tree.weight := by
  unfold Pass.replacement at replaced
  split at replaced
  · next cast => simp [cast, RemovalKind.revisits] at final
  · next paren => simp [paren, RemovalKind.revisits] at final
  · next op parts binary =>
      rcases Option.some.inj replaced with rfl
      rcases isNode with ⟨node, isNode⟩
      have label : node.label = .binary op := by
        have ofTree := node.label?_skeleton
        rw [isNode, label?_node, Option.some.injEq] at ofTree
        exact ofTree.symm
      rw [← isNode] at candidate ⊢
      rw [pass.isCandidateAt_skeleton] at candidate
      rcases Node.exists_of_label_binary label with ⟨lhs, rhs, rfl⟩
      exact weight_canonical_lt binary candidate
  · next parts block =>
      rcases Option.some.inj replaced with rfl
      exact weight_emptied_lt block candidate
  · cases replaced

/-! ## What a pass rebuilds -/

/-- Whatever a pass leaves of a node is the node as it was, or lighter. -/
def Lightens (pass : Pass) (tree : Skeleton) : Prop :=
  ∀ mode after, (tree.reduce pass mode).value = some after →
    after = tree ∨ after.weight < tree.weight

/-- What stands in a slot is what stood there before, or something lighter. -/
theorem weight_of_fill (lightens : tree.Lightens pass) {slot : Slot} {shielded : Bool}
    {mode : Mode} {parts : List (Slot × Skeleton)}
    (filled : slot.fill shielded tree (tree.reduce pass mode).value = some parts) :
    parts = [(slot, tree)] ∨ weightOfParts parts < tree.weight := by
  have filling := Slot.filling_of_fill filled
  generalize value : (tree.reduce pass mode).value = rebuilt at filling
  cases filling with
  | rebuilt after =>
      rcases lightens mode after value with rfl | less
      · exact .inl rfl
      · exact .inr (by simpa [weightOfParts] using less)
  | closed => exact .inr (by simpa [weightOfParts] using tree.weight_pos)
  | emptied _ =>
      by_cases same : tree = nothing
      · exact .inl (by rw [same])
      · exact .inr (by simpa [weightOfParts] using one_lt_weight same)
  | kept _ _ => exact .inl rfl

/-- Rebuilt parts are those before, or lighter together. -/
theorem weight_of_reduceParts {shielded : Bool} {mode : Mode}
    {parts parts' : List (Slot × Skeleton)}
    (lightens : ∀ part ∈ parts, part.2.Lightens pass)
    (value : (reduceParts pass shielded parts mode).value = some parts') :
    parts' = parts ∨ weightOfParts parts' < weightOfParts parts := by
  induction parts generalizing mode parts' with
  | nil =>
      obtain rfl : [] = parts' := by simpa using value
      exact .inl rfl
  | cons part rest ih =>
      rcases part with ⟨slot, tree⟩
      rcases List.forall_mem_cons.mp lightens with ⟨ofPart, ofOthers⟩
      rw [weightOfParts]
      rcases reduceParts_cons_cases pass value with
        ⟨_, ofRest⟩ | ⟨_, front, rest', filled, ofRest, rfl⟩
      · have pos := tree.weight_pos
        rcases ih ofOthers ofRest with rfl | less <;> right <;> omega
      · have isLight : tree.Lightens pass := ofPart
        rw [weightOfParts_append]
        rcases weight_of_fill isLight filled with rfl | less <;>
          rcases ih ofOthers ofRest with rfl | lessRest
        · exact .inl rfl
        · right
          simp only [weightOfParts]
          omega
        · right
          omega
        · right
          omega

/-- What takes the place of a selected node is lighter. -/
theorem weight_lt_of_reduceSelected (isNode : tree.IsNode)
    (candidate : pass.isCandidateAt tree = true)
    (lightens : ∀ inner ∈ tree.descendants, inner.Lightens pass) {mode : Mode}
    (value : (tree.reduceSelected pass mode).value = some after) : after.weight < tree.weight := by
  cases unwraps : pass.kind.revisits with
  | false =>
      have replaced : pass.replacement tree = some after := by
        simpa [reduceSelected, Pass.revisited?, unwraps] using value
      exact weight_lt_of_replacement isNode candidate unwraps replaced
  | true =>
      rcases exists_uncovered_of_isCandidateAt pass unwraps candidate with
        ⟨inner, isInside, uncovered, _⟩
      have ofInner := weight_lt_of_mem_descendants isInside
      rw [reduceSelected, uncovered] at value
      rcases lightens inner isInside mode after value with rfl | less
      · exact ofInner
      · omega

/-- A pass leaves every node as it was, or lighter. -/
theorem IsNode.lightens (pass : Pass) (isNode : tree.IsNode) : tree.Lightens pass := by
  -- A selected node may go on with something deep inside of it, not just with a part.
  induction tree using Skeleton.induct_descendants with
  | node tree ih =>
      have inside : ∀ inner ∈ tree.descendants, inner.Lightens pass := by
        intro inner isInside
        exact ih inner isInside
          (isNode.of_mem_selfAndDescendants (List.mem_cons_of_mem _ isInside))
      intro mode after value
      rcases reduce_cases pass tree mode with ⟨candidate, _, rest, same⟩ | ⟨rest, same, _⟩
      · right
        rw [same] at value
        exact weight_lt_of_reduceSelected isNode candidate inside value
      · rw [same, reduceKept_apply] at value
        rcases Option.map_eq_some_iff.mp value with ⟨parts, ofParts, rfl⟩
        have ofNode := weight_of_reduceParts
          (fun part member => inside part.2 (mem_descendants_of_mem_parts member)) ofParts
        cases tree with
        | node label before =>
            rcases ofNode with rfl | less
            · exact .inl rfl
            · exact .inr (weight_node_lt less)

end Pass

end Skeleton

/-! ## Clutter -/

/-- The start of a counting loop is clutter if it is a list without expressions. -/
def ForInit.clutter : Option ForInit → Nat
  | some (.run []) => 1
  | _ => 0

mutual

/-- The number of comments and of empty lists of starting expressions in a statement. -/
def Stmt.clutter : Stmt → Nat
  | ⟨trivia, form⟩ => trivia.length + form.clutter

def StmtForm.clutter : StmtForm → Nat
  | .block body => Stmt.clutterInList body
  | .ifElse _ thenBranch none => thenBranch.clutter
  | .ifElse _ thenBranch (some elseBranch) => thenBranch.clutter + elseBranch.clutter
  | .forLoop init _ _ body => ForInit.clutter init + body.clutter
  | .whileLoop _ body => body.clutter
  | .doWhile body _ => body.clutter
  | .declare _ | .expr _ | .ret _ | .brk | .cont | .empty => 0

def Stmt.clutterInList : List Stmt → Nat
  | [] => 0
  | stmt :: rest => stmt.clutter + Stmt.clutterInList rest

end

mutual

/-- The number of comments and of empty lists of starting expressions in a declaration. -/
def Member.clutter : Member → Nat
  | ⟨trivia, form⟩ => trivia.length + form.clutter

def MemberForm.clutter : MemberForm → Nat
  | .classDecl _ _ members => Member.clutterInList members
  | .field _ => 0
  | .method decl => Stmt.clutterInList decl.body

def Member.clutterInList : List Member → Nat
  | [] => 0
  | member :: rest => member.clutter + Member.clutterInList rest

end

/-- The number of comments and of empty lists of starting expressions in a program. -/
def Program.clutter (program : Program) : Nat :=
  Member.clutterInList program.members

theorem ForInit.clutter_eq_zero_iff (init : Option ForInit) :
    ForInit.clutter init = 0 ↔ ForInit.normal init = init := by
  match init with
  | none => simp [ForInit.clutter, ForInit.normal]
  | some (.declare _) => simp [ForInit.clutter, ForInit.normal]
  | some (.run []) => simp [ForInit.clutter, ForInit.normal]
  | some (.run (_ :: _)) => simp [ForInit.clutter, ForInit.normal]

mutual

/-- A statement without clutter is in its normal form. -/
theorem Stmt.clutter_eq_zero_iff : (stmt : Stmt) → (stmt.clutter = 0 ↔ stmt.normal = stmt)
  | ⟨trivia, form⟩ => by
      have ofForm := form.clutter_eq_zero_iff
      simp [Stmt.clutter, Stmt.normal, ofForm, eq_comm]

theorem StmtForm.clutter_eq_zero_iff : (form : StmtForm) → (form.clutter = 0 ↔ form.normal = form)
  | .block body => by
      have ofBody := Stmt.clutterInList_eq_zero_iff body
      simp [StmtForm.clutter, StmtForm.normal, ofBody]
  | .ifElse cond thenBranch none => by
      have ofThen := thenBranch.clutter_eq_zero_iff
      simp [StmtForm.clutter, StmtForm.normal, ofThen]
  | .ifElse cond thenBranch (some elseBranch) => by
      have ofThen := thenBranch.clutter_eq_zero_iff
      have ofElse := elseBranch.clutter_eq_zero_iff
      simp [StmtForm.clutter, StmtForm.normal, ofThen, ofElse]
  | .forLoop init cond update body => by
      have ofInit := ForInit.clutter_eq_zero_iff init
      have ofBody := body.clutter_eq_zero_iff
      simp [StmtForm.clutter, StmtForm.normal, ofInit, ofBody]
  | .whileLoop cond body => by
      have ofBody := body.clutter_eq_zero_iff
      simp [StmtForm.clutter, StmtForm.normal, ofBody]
  | .doWhile body cond => by
      have ofBody := body.clutter_eq_zero_iff
      simp [StmtForm.clutter, StmtForm.normal, ofBody]
  | .declare _ => by simp [StmtForm.clutter, StmtForm.normal]
  | .expr _ => by simp [StmtForm.clutter, StmtForm.normal]
  | .ret _ => by simp [StmtForm.clutter, StmtForm.normal]
  | .brk => by simp [StmtForm.clutter, StmtForm.normal]
  | .cont => by simp [StmtForm.clutter, StmtForm.normal]
  | .empty => by simp [StmtForm.clutter, StmtForm.normal]

theorem Stmt.clutterInList_eq_zero_iff :
    (stmts : List Stmt) → (Stmt.clutterInList stmts = 0 ↔ Stmt.normalList stmts = stmts)
  | [] => by simp [Stmt.clutterInList, Stmt.normalList]
  | stmt :: rest => by
      have head := stmt.clutter_eq_zero_iff
      have tail := Stmt.clutterInList_eq_zero_iff rest
      simp [Stmt.clutterInList, Stmt.normalList, head, tail]

end

mutual

theorem Member.clutter_eq_zero_iff :
    (member : Member) → (member.clutter = 0 ↔ member.normal = member)
  | ⟨trivia, form⟩ => by
      have ofForm := form.clutter_eq_zero_iff
      simp [Member.clutter, Member.normal, ofForm, eq_comm]

theorem MemberForm.clutter_eq_zero_iff :
    (form : MemberForm) → (form.clutter = 0 ↔ form.normal = form)
  | .classDecl _ _ members => by
      have ofMembers := Member.clutterInList_eq_zero_iff members
      simp [MemberForm.clutter, MemberForm.normal, ofMembers]
  | .field _ => by simp [MemberForm.clutter, MemberForm.normal]
  | .method decl => by
      have ofBody := Stmt.clutterInList_eq_zero_iff decl.body
      rcases decl with ⟨modifiers, ret, name, params, body⟩
      simpa [MemberForm.clutter, MemberForm.normal] using ofBody

theorem Member.clutterInList_eq_zero_iff :
    (members : List Member) →
      (Member.clutterInList members = 0 ↔ Member.normalList members = members)
  | [] => by simp [Member.clutterInList, Member.normalList]
  | member :: rest => by
      have head := member.clutter_eq_zero_iff
      have tail := Member.clutterInList_eq_zero_iff rest
      simp [Member.clutterInList, Member.normalList, head, tail]

end

theorem Program.clutter_eq_zero_iff (program : Program) :
    program.clutter = 0 ↔ program.normal = program := by
  rcases program with ⟨members⟩
  simpa [Program.clutter, Program.normal] using Member.clutterInList_eq_zero_iff members

/-! ## Passes over programs -/

/-- The weight of a program is that of its skeleton and of the clutter that is not in it. -/
def Program.weight (program : Program) : Nat :=
  program.skeleton.weight + program.clutter

namespace Pass

theorem clutter_apply (pass : Pass) (program : Program) (mode : Mode) :
    (pass.apply program mode).value.clutter = 0 :=
  (Program.clutter_eq_zero_iff _).mpr (pass.normal_apply program mode)

/-- A pass that leaves the skeleton of some program leaves the normal form of that program. -/
theorem apply_eq_normal_of_skeleton {pass : Pass} {program other : Program} {mode : Mode}
    (same : (pass.apply program mode).value.skeleton = other.skeleton) :
    (pass.apply program mode).value = other.normal := by
  have read := pass.ofSkeleton?_apply program mode
  rw [same, Program.ofSkeleton?_skeleton] at read
  exact (Option.some.inj read).symm

theorem weight_skeleton_apply (pass : Pass) (program : Program) (mode : Mode) :
    (pass.apply program mode).value.skeleton = program.skeleton ∨
      (pass.apply program mode).value.skeleton.weight < program.skeleton.weight := by
  have lightens : ∀ part ∈ program.skeleton.parts, part.2.Lightens pass := by
    intro part member
    exact Skeleton.IsNode.lightens pass (program.entry_of_mem_parts member).2
  have ofParts := congrArg Counted.value (pass.reduceParts_skeleton program mode)
  rcases Skeleton.weight_of_reduceParts lightens ofParts with same | less
  · exact .inl (congrArg (Skeleton.node none) same)
  · exact .inr (Skeleton.weight_node_lt less)

/-- A pass leaves a program as it is, or makes it lighter. -/
theorem apply_eq_or_weight_lt (pass : Pass) (program : Program) (mode : Mode) :
    (pass.apply program mode).value = program ∨
      (pass.apply program mode).value.weight < program.weight := by
  have clean := pass.clutter_apply program mode
  rw [Program.weight, Program.weight, clean]
  rcases pass.weight_skeleton_apply program mode with same | less
  · have value := apply_eq_normal_of_skeleton same
    by_cases cluttered : program.clutter = 0
    · left
      rw [value, (Program.clutter_eq_zero_iff program).mp cluttered]
    · right
      rw [same]
      omega
  · right
    omega

/-- Passes one after the other, each in its mode. -/
def run (steps : Nat → Pass × Mode) (program : Program) : Nat → Program
  | 0 => program
  | index + 1 =>
      ((steps index).1.apply (run steps program index) (steps index).2).value

section Run

variable (steps : Nat → Pass × Mode) (program : Program)

theorem run_succ_eq_or_weight_lt (index : Nat) :
    run steps program (index + 1) = run steps program index ∨
      (run steps program (index + 1)).weight < (run steps program index).weight :=
  (steps index).1.apply_eq_or_weight_lt (run steps program index) (steps index).2

theorem weight_run_antitone : Antitone fun index => (run steps program index).weight := by
  refine antitone_nat_of_succ_le fun index => ?_
  rcases run_succ_eq_or_weight_lt steps program index with same | less
  · rw [same]
  · exact Nat.le_of_lt less

/-- As long as nothing becomes lighter, nothing changes. -/
theorem run_eq_of_weight {first last : Nat} (ordered : first ≤ last)
    (same : (run steps program last).weight = (run steps program first).weight) :
    run steps program last = run steps program first := by
  induction last, ordered using Nat.le_induction with
  | base => rfl
  | succ last ordered ih =>
      have before := weight_run_antitone steps program ordered
      have after := weight_run_antitone steps program (Nat.le_add_right last 1)
      simp only at before after
      rcases run_succ_eq_or_weight_lt steps program last with unchanged | less
      · rw [unchanged]
        exact ih (by omega)
      · omega

end Run

/--
Reduction terminates.  Every pass leaves a program as it is or makes it lighter;
so whatever passes are made one after the other, from some point on nothing
changes any more, and a program that has changed does not come back.
-/
theorem reduction_terminates :
    (∀ (pass : Pass) (program : Program) (mode : Mode),
      (pass.apply program mode).value = program ∨
        (pass.apply program mode).value.weight < program.weight) ∧
    ∀ (steps : Nat → Pass × Mode) (program : Program),
      (∃ last, ∀ index, last ≤ index → run steps program index = run steps program last) ∧
      ∀ first middle last, first ≤ middle → middle ≤ last →
        run steps program last = run steps program first →
          run steps program middle = run steps program first := by
  refine ⟨apply_eq_or_weight_lt, fun steps program => ⟨?_, ?_⟩⟩
  · let weights := fun index => (run steps program index).weight
    refine ⟨Function.argmin weights, fun index later => run_eq_of_weight steps program later ?_⟩
    have lightest : weights (Function.argmin weights) ≤ weights index :=
      Function.argmin_le weights index
    have lighter := weight_run_antitone steps program later
    exact Nat.le_antisymm lighter lightest
  · intro first middle last isAfter isBefore returned
    refine run_eq_of_weight steps program isAfter ?_
    have down := weight_run_antitone steps program isAfter
    have further := weight_run_antitone steps program isBefore
    simp only [returned] at down further
    exact Nat.le_antisymm down further

end Pass

end Whittle

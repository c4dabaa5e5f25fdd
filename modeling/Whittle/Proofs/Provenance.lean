import Mathlib.Data.List.Flatten
import Whittle.Proofs.FixedPoint
import Whittle.Proofs.Weight

/-!
# Where code comes from

A pass rebuilds every node of a program, keeps copies of operands that it may
have to restore, and goes on with what it uncovers.  Still every label in the
rebuilt program is one of the program before, and no label comes twice or in
another place than it had: the labels are a subsequence of those before.  Two
things are new by design.  The empty statement takes the place of a body, and a
binary expression is simplified to two constants; so the labels of empty
statements are left out, and where binary expressions are simplified only the
labels of declarations and statements are compared.  Those stay exactly as they
are.
-/

namespace Whittle

/-- Whether the label is that of an expression. -/
def Label.isExpr : Label → Bool
  | .literal _ | .ident _ | .unary _ | .binary _ | .assign _ | .cast _ => true
  | .paren | .invoke | .member _ | .conditional => true
  | _ => false

@[simp]
theorem Expr.isExpr_label (expr : Expr) : expr.label.isExpr = true := by
  cases expr <;> rfl

namespace Skeleton

/-! ## The labels in a skeleton -/

section Labels

variable (keep : Label → Bool)

/-- Whether the node has a label that passes a test. -/
def bears (tree : Skeleton) : Bool :=
  tree.label?.any keep

/-- The labels in a skeleton that pass a test, in the order of the source. -/
def labelsIn (tree : Skeleton) : List Label :=
  labelsWhere (bears keep) tree.selfAndDescendants

/-- The labels in a list of parts that pass a test, in the order of the source. -/
def labelsInParts (parts : List (Slot × Skeleton)) : List Label :=
  labelsWhere (bears keep) (inParts parts)

@[simp]
theorem labelsInParts_nil : labelsInParts keep [] = [] :=
  rfl

@[simp]
theorem labelsInParts_cons (slot : Slot) (tree : Skeleton) (rest : List (Slot × Skeleton)) :
    labelsInParts keep ((slot, tree) :: rest) = tree.labelsIn keep ++ labelsInParts keep rest := by
  rw [labelsInParts, inParts, labelsWhere_append]
  rfl

@[simp]
theorem labelsInParts_append (first second : List (Slot × Skeleton)) :
    labelsInParts keep (first ++ second) =
      labelsInParts keep first ++ labelsInParts keep second := by
  simp [labelsInParts]

theorem labelsIn_node (label : Option Label) (parts : List (Slot × Skeleton)) :
    (node label parts).labelsIn keep =
      (label.filter keep).toList ++ labelsInParts keep parts := by
  have split : (node label parts).selfAndDescendants = [node label parts] ++ inParts parts := rfl
  rw [labelsIn, split, labelsWhere_append]
  cases label with
  | none => rfl
  | some own =>
      cases kept : keep own <;> simp [labelsWhere, bears, kept, labelsInParts, Option.filter]

theorem labelsInParts_eq_flatMap (parts : List (Slot × Skeleton)) :
    labelsInParts keep parts = parts.flatMap fun part => part.2.labelsIn keep := by
  induction parts with
  | nil => rfl
  | cons part rest ih => rw [labelsInParts_cons, ih, List.flatMap_cons]

theorem labelsInParts_sublist_of_mem {part : Slot × Skeleton} {parts : List (Slot × Skeleton)}
    (member : part ∈ parts) : (part.2.labelsIn keep).Sublist (labelsInParts keep parts) := by
  have single := (List.singleton_sublist.mpr member).flatMap fun part => part.2.labelsIn keep
  rw [labelsInParts_eq_flatMap]
  simpa using single

/-- The labels in something inside a node are among those in the node. -/
theorem labelsIn_sublist_of_mem_descendants {tree inner : Skeleton}
    (isInside : inner ∈ tree.descendants) :
    (inner.labelsIn keep).Sublist (tree.labelsIn keep) := by
  induction tree using Skeleton.induct with
  | node label parts ih =>
      rw [descendants, inParts_eq_flatMap, List.mem_flatMap] at isInside
      rcases isInside with ⟨part, isPart, isInside⟩
      have ofPart : (inner.labelsIn keep).Sublist (part.2.labelsIn keep) := by
        rcases List.mem_cons.mp isInside with rfl | deeper
        · exact List.Sublist.refl _
        · exact ih part isPart deeper
      rw [labelsIn_node]
      exact (ofPart.trans (labelsInParts_sublist_of_mem keep isPart)).trans
        (List.sublist_append_right _ _)

end Labels

/-! ## Nothing is new -/

section Sublist

variable {pass : Pass} {keep : Label → Bool}

/-- Whatever a pass leaves of a node has no other labels than the node, in the same order. -/
def Selects (pass : Pass) (keep : Label → Bool) (tree : Skeleton) : Prop :=
  ∀ mode after, (tree.reduce pass mode).value = some after →
    (after.labelsIn keep).Sublist (tree.labelsIn keep)

/-- What stands in a slot has no other labels than what stood there before. -/
theorem labels_of_fill (noEmpty : keep .empty = false) {tree : Skeleton}
    (selects : tree.Selects pass keep) {slot : Slot} {shielded : Bool} {mode : Mode}
    {parts : List (Slot × Skeleton)}
    (filled : slot.fill shielded tree (tree.reduce pass mode).value = some parts) :
    (labelsInParts keep parts).Sublist (tree.labelsIn keep) := by
  have filling := Slot.filling_of_fill filled
  generalize value : (tree.reduce pass mode).value = rebuilt at filling
  cases filling with
  | rebuilt after => simpa using selects mode after value
  | closed => exact List.nil_sublist _
  | emptied _ =>
      have nothing : nothing.labelsIn keep = [] := by
        rw [Skeleton.nothing, labelsIn_node]
        simp [noEmpty]
      simp [nothing]
  | kept _ _ => simp

/-- Rebuilt parts have no other labels than those before. -/
theorem labels_of_reduceParts (noEmpty : keep .empty = false) {shielded : Bool} {mode : Mode}
    {parts parts' : List (Slot × Skeleton)}
    (selects : ∀ part ∈ parts, part.2.Selects pass keep)
    (value : (reduceParts pass shielded parts mode).value = some parts') :
    (labelsInParts keep parts').Sublist (labelsInParts keep parts) := by
  induction parts generalizing mode parts' with
  | nil =>
      obtain rfl : [] = parts' := by simpa using value
      exact List.Sublist.refl _
  | cons part rest ih =>
      rcases part with ⟨slot, tree⟩
      rcases List.forall_mem_cons.mp selects with ⟨ofPart, ofOthers⟩
      have ofTree : tree.Selects pass keep := ofPart
      rw [labelsInParts_cons]
      rcases reduceParts_cons_cases pass value with
        ⟨_, ofRest⟩ | ⟨_, front, rest', filled, ofRest, rfl⟩
      · exact (ih ofOthers ofRest).trans (List.sublist_append_right _ _)
      · rw [labelsInParts_append]
        exact (labels_of_fill noEmpty ofTree filled).append (ih ofOthers ofRest)

/-- What takes the place of a selected node has no other labels than the node. -/
theorem labels_of_reduceSelected (notBinary : pass.kind ≠ .binary) {tree after : Skeleton}
    (candidate : pass.isCandidateAt tree = true)
    (inside : ∀ inner ∈ tree.descendants, inner.Selects pass keep) {mode : Mode}
    (value : (tree.reduceSelected pass mode).value = some after) :
    (after.labelsIn keep).Sublist (tree.labelsIn keep) := by
  cases unwraps : pass.kind.revisits with
  | true =>
      rcases exists_uncovered_of_isCandidateAt pass unwraps candidate with
        ⟨inner, isInside, uncovered, _⟩
      rw [reduceSelected, uncovered] at value
      exact (inside inner isInside mode after value).trans
        (labelsIn_sublist_of_mem_descendants keep isInside)
  | false =>
      have replaced : pass.replacement tree = some after := by
        simpa [reduceSelected, Pass.revisited?, unwraps] using value
      unfold Pass.replacement at replaced
      split at replaced
      · next cast => simp [cast, RemovalKind.revisits] at unwraps
      · next paren => simp [paren, RemovalKind.revisits] at unwraps
      · next binary => exact (notBinary binary).elim
      · -- A block that loses its statements keeps its own label.
        rcases Option.some.inj replaced with rfl
        rw [labelsIn_node, labelsIn_node]
        exact (List.Sublist.refl _).append (List.nil_sublist _)
      · cases replaced

/-- A pass that simplifies no binary expressions leaves no label that was not there. -/
theorem selects_of_ne_binary (notBinary : pass.kind ≠ .binary) (noEmpty : keep .empty = false)
    (tree : Skeleton) : tree.Selects pass keep := by
  induction tree using Skeleton.induct_descendants with
  | node tree inside =>
      intro mode after value
      rcases reduce_cases pass tree mode with ⟨candidate, _, rest, same⟩ | ⟨rest, same, _⟩
      · rw [same] at value
        exact labels_of_reduceSelected notBinary candidate inside value
      · rw [same, reduceKept_apply] at value
        rcases Option.map_eq_some_iff.mp value with ⟨parts, ofParts, rfl⟩
        have ofNode := labels_of_reduceParts noEmpty
          (fun part member => inside part.2 (mem_descendants_of_mem_parts member)) ofParts
        cases tree with
        | node label before =>
            rw [labelsIn_node, labelsIn_node]
            exact (List.Sublist.refl _).append ofNode

end Sublist

/-! ## Nothing but expressions is simplified -/

/-- The labels of the declarations and the statements in a skeleton. -/
def frame (tree : Skeleton) : List Label :=
  tree.labelsIn fun label => !label.isExpr

/-- There are only expressions in an expression. -/
@[simp]
theorem frame_skeleton (expr : Expr) : expr.skeleton.frame = [] := by
  rw [frame, labelsIn, labelsWhere, List.filter_eq_nil_iff.mpr]
  · rfl
  · intro inner member
    rcases expr.exists_of_mem_selfAndDescendants member with ⟨within, rfl, _⟩
    have label : within.skeleton.label? = some within.label := Node.label?_skeleton (.expr within)
    simp [bears, label]

section Frame

variable {pass : Pass} {tree : Skeleton}

/-- A binary expression that is selected is simplified, and no statement goes with it. -/
theorem exists_replacement_of_binary (binary : pass.kind = .binary) (isNode : tree.IsNode)
    (candidate : pass.isCandidateAt tree = true) :
    ∃ after, pass.replacement tree = some after ∧ after.frame = tree.frame := by
  rcases isNode with ⟨node, rfl⟩
  rw [pass.isCandidateAt_skeleton] at candidate
  have removed := pass.removedBy?_of_isCandidate candidate (by simp [binary])
  obtain ⟨op, isBinary⟩ : ∃ op, node.label = .binary op := by
    rw [binary] at removed
    cases label : node.label <;> simp_all [Label.removedBy?]
  rcases Node.exists_of_label_binary isBinary with ⟨lhs, rhs, rfl⟩
  refine ⟨op.canonical.skeleton, ?_, ?_⟩
  · simp [Pass.replacement, binary, Node.skeleton, Expr.skeleton]
  · rw [Node.skeleton, frame_skeleton, frame_skeleton]

/-- No part is deleted where binary expressions are simplified, and no statement is touched. -/
theorem exists_reduceParts_of_binary (binary : pass.kind = .binary) (shielded : Bool)
    (parts : List (Slot × Skeleton))
    (alike : ∀ part ∈ parts, ∀ mode, ∃ after,
      (part.2.reduce pass mode).value = some after ∧ after.frame = part.2.frame)
    (mode : Mode) :
    ∃ parts', (reduceParts pass shielded parts mode).value = some parts' ∧
      labelsInParts (fun label => !label.isExpr) parts' =
        labelsInParts (fun label => !label.isExpr) parts := by
  induction parts generalizing mode with
  | nil => exact ⟨[], by simp, rfl⟩
  | cons part rest ih =>
      rcases part with ⟨slot, tree⟩
      rcases List.forall_mem_cons.mp alike with ⟨ofPart, ofOthers⟩
      rcases ofPart mode with ⟨after, value, ofTree⟩
      rcases ih ofOthers (mode.after (tree.reduce pass mode).candidates) with
        ⟨rest', ofRest, sameRest⟩
      have notSwept := sweepsAt_eq_false pass (by simp [binary]) slot tree
      simp only at value ofTree
      refine ⟨(slot, after) :: rest', ?_, ?_⟩
      · rw [reduceParts_cons_apply pass shielded rest mode notSwept]
        simp [value, ofRest]
      · rw [labelsInParts_cons, labelsInParts_cons, sameRest]
        exact congrArg (· ++ _) ofTree

/-- Where binary expressions are simplified every node stays, with its declarations and statements. -/
theorem IsNode.exists_reduce_of_binary (binary : pass.kind = .binary) (isNode : tree.IsNode)
    (mode : Mode) :
    ∃ after, (tree.reduce pass mode).value = some after ∧ after.frame = tree.frame := by
  induction tree using Skeleton.induct generalizing mode with
  | node label parts ih =>
      rcases reduce_cases pass (node label parts) mode with
        ⟨candidate, _, rest, same⟩ | ⟨rest, same, _⟩
      · rcases exists_replacement_of_binary binary isNode candidate with ⟨after, replaced, alike⟩
        refine ⟨after, ?_, alike⟩
        rw [same]
        simp [reduceSelected, Pass.revisited?, binary, RemovalKind.revisits, replaced]
      · rcases exists_reduceParts_of_binary binary (pass.shieldsAt (node label parts)) parts
          (fun part member => ih part member (isNode.of_mem_parts member)) rest with
          ⟨parts', ofParts, alike⟩
        refine ⟨node label parts', ?_, ?_⟩
        · rw [same, reduceKept_apply]
          simp [ofParts]
        · rw [frame, frame, labelsIn_node, labelsIn_node, alike]

end Frame

end Skeleton

/-! ## Programs -/

namespace Program

/-- The labels of the nodes of a program in the order of the walk, without empty statements. -/
def code (program : Program) : List Label :=
  (program.nodes.map Node.label).filter (· != .empty)

/-- The labels of the declarations and the statements of a program in the order of the walk. -/
def frame (program : Program) : List Label :=
  (program.nodes.map Node.label).filter fun label => !label.isExpr

theorem labelsIn_skeleton (program : Program) (keep : Label → Bool) :
    program.skeleton.labelsIn keep = (program.nodes.map Node.label).filter keep := by
  have ofNodes := Skeleton.labelsWhere_map_skeleton (Skeleton.bears keep) program.nodes
  have same : (fun node : Node => Skeleton.bears keep node.skeleton) = keep ∘ Node.label := by
    funext node
    simp [Skeleton.bears]
  rw [program.nodes_map_skeleton, same] at ofNodes
  rw [List.filter_map, ← ofNodes, Program.skeleton, Skeleton.labelsIn_node]
  rfl

end Program

namespace Pass

/-- A pass that simplifies no binary expressions adds nothing to a program. -/
theorem code_apply_sublist {pass : Pass} (notBinary : pass.kind ≠ .binary) (program : Program)
    (mode : Mode) : (pass.apply program mode).value.code.Sublist program.code := by
  have value := congrArg Counted.value (pass.apply_skeleton program mode)
  have selects : program.skeleton.Selects pass (· != .empty) :=
    Skeleton.selects_of_ne_binary notBinary rfl program.skeleton
  have selected := selects mode _ value
  rw [Program.labelsIn_skeleton, Program.labelsIn_skeleton] at selected
  exact selected

/-- A pass that simplifies binary expressions leaves all declarations and statements. -/
theorem frame_apply {pass : Pass} (binary : pass.kind = .binary) (program : Program)
    (mode : Mode) : (pass.apply program mode).value.frame = program.frame := by
  have kept : ∀ part ∈ program.skeleton.parts, ∀ mode, ∃ after,
      (part.2.reduce pass mode).value = some after ∧ after.frame = part.2.frame := by
    intro part found mode
    exact Skeleton.IsNode.exists_reduce_of_binary binary (program.entry_of_mem_parts found).2 mode
  rcases Skeleton.exists_reduceParts_of_binary binary (pass.shieldsAt program.skeleton) _ kept mode
    with ⟨parts, ofParts, alike⟩
  rw [pass.reduceParts_skeleton, Option.some.injEq] at ofParts
  rw [← ofParts] at alike
  have ofProgram := program.labelsIn_skeleton fun label => !label.isExpr
  have ofResult := (pass.apply program mode).value.labelsIn_skeleton fun label => !label.isExpr
  rw [Program.skeleton, Skeleton.labelsIn_node] at ofProgram ofResult
  exact ofResult.symm.trans ((congrArg _ alike).trans ofProgram)

/--
No pass invents, doubles or moves code.  What it leaves of a program has the
labels of the program but for those that are gone, in the same order, and so has
what is left after any number of passes.  A pass that simplifies binary
expressions leaves the label of every declaration and every statement.
-/
theorem code_sublist_of_passes :
    (∀ (pass : Pass) (program : Program) (mode : Mode), pass.kind ≠ .binary →
      (pass.apply program mode).value.code.Sublist program.code) ∧
    (∀ (steps : Nat → Pass × Mode) (program : Program) (count : Nat),
      (∀ index < count, (steps index).1.kind ≠ .binary) →
        (run steps program count).code.Sublist program.code) ∧
    ∀ (pass : Pass) (program : Program) (mode : Mode), pass.kind = .binary →
      (pass.apply program mode).value.frame = program.frame := by
  refine ⟨?_, ?_, ?_⟩
  · intro pass program mode notBinary
    exact code_apply_sublist notBinary program mode
  · intro steps program count
    induction count with
    | zero =>
        intro _
        exact List.Sublist.refl _
    | succ count ih =>
        intro notBinary
        have before := ih fun index less => notBinary index (by omega)
        have last := code_apply_sublist (notBinary count (by omega)) (run steps program count)
          (steps count).2
        exact last.trans before
  · intro pass program mode binary
    exact frame_apply binary program mode

/-- A choice on a sum, with a cast in its branch. -/
def castOnSum : Program :=
  ⟨[⟨[], .method ⟨[], "void", "f", [],
    [⟨[], .ifElse (.binary .add (.literal (.int 1)) (.literal (.int 2)))
      ⟨[], .block [⟨[], .expr (.cast "int" (.paren (.ident "x")))⟩]⟩ none⟩]⟩⟩]⟩

/-- One pass unwraps the cast, another one empties the block around it, and the sum is simplified. -/
theorem code_sublist_of_passes_cast :
    (RemovalKind.cast ≠ .binary ∧
      (apply ⟨.cast, .standard⟩ castOnSum (.nth 0)).value.code.Sublist castOnSum.code) ∧
    (RemovalKind.block ≠ .binary ∧
      (run (fun _ => (⟨.block, .standard⟩, .all)) castOnSum 2).code.Sublist castOnSum.code) ∧
    (apply ⟨.binary, .standard⟩ castOnSum .all).value.frame = castOnSum.frame := by
  refine ⟨⟨by decide, ?_⟩, ⟨by decide, ?_⟩, ?_⟩
  · exact code_sublist_of_passes.1 ⟨.cast, .standard⟩ castOnSum (.nth 0) (by decide)
  · exact code_sublist_of_passes.2.1 _ castOnSum 2 fun _ _ => by decide
  · exact code_sublist_of_passes.2.2 ⟨.binary, .standard⟩ castOnSum .all rfl

end Pass

end Whittle

import Whittle.Proofs.FewerCandidates
import Whittle.Proofs.Provenance

/-!
# Unwrapping

Two kinds of removal take away nothing but a wrapping.  A selected pair of
parentheses gives way to what is inside of it, and a selected cast to its
operand, which also loses one pair of parentheses directly around it.  Then the
pass goes on with what it has uncovered, so it meets every candidate of the
program before.

Which nodes go can therefore be read off the walk of the program before: those
selected and, where casts are removed, the parentheses directly inside of them.
`unwrapping_loses_no_code` says that the labels of all other nodes stay, each in
its place.
-/

namespace Whittle

/-! ## What a walk selects -/

/-- Those of some items in a row that are selected. -/
def Mode.choose {α : Type} (mode : Mode) (items : List α) : List α :=
  match mode with
  | .probe => []
  | .nth index => items[index]?.toList
  | .all => items

namespace Mode

variable {α : Type}

@[simp]
theorem choose_nil (mode : Mode) : mode.choose ([] : List α) = [] := by
  cases mode <;> rfl

theorem choose_cons (mode : Mode) (item : α) (rest : List α) :
    mode.choose (item :: rest) =
      if mode.selectsNext then item :: (mode.after 1).choose rest
      else (mode.after 1).choose rest := by
  match mode with
  | .probe => rfl
  | .nth 0 => rfl
  | .nth (index + 1) => simp [choose, selectsNext, after]
  | .all => rfl

/-- What is selected of the first items is not left to select of the others. -/
theorem choose_append (mode : Mode) (first second : List α) :
    mode.choose (first ++ second) =
      mode.choose first ++ (mode.after first.length).choose second := by
  induction first generalizing mode with
  | nil => simp
  | cons item rest ih =>
      have later : (mode.after 1).after rest.length = mode.after (item :: rest).length := by
        rw [after_after, List.length_cons, Nat.add_comm]
      rw [List.cons_append, choose_cons, choose_cons, ih, later]
      split <;> rfl

theorem mem_of_mem_choose {mode : Mode} {item : α} {items : List α}
    (member : item ∈ mode.choose items) : item ∈ items := by
  cases mode with
  | probe => cases member
  | all => exact member
  | nth index => exact List.mem_of_getElem? (Option.mem_toList.mp member)

theorem length_choose (mode : Mode) (items : List α) :
    (mode.choose items).length = mode.taken items.length := by
  cases mode with
  | probe => rfl
  | all => rfl
  | nth index =>
      by_cases inRange : index < items.length <;> simp [choose, taken, inRange]

end Mode

/-- A node that a walk meets. -/
structure Encounter where
  node : Node
  /-- Whether the node is a candidate and selected. -/
  selected : Bool
  /-- Whether the node directly around it is. -/
  insideSelected : Bool

namespace Outline

variable (pass : Pass)

mutual

/--
The nodes of an outline in the order of the walk, with what a pass selects of them
if it meets every candidate.
-/
def encounters (mode : Mode) (insideSelected : Bool) : Outline → List Encounter
  | .node head children =>
      let candidate := pass.isCandidate head
      let selected := candidate && mode.selectsNext
      ⟨head, selected, insideSelected⟩ ::
        encountersInList (mode.after (if candidate then 1 else 0)) selected children

/-- The nodes of a list of outlines, one outline after the other. -/
def encountersInList (mode : Mode) (insideSelected : Bool) : List Outline → List Encounter
  | [] => []
  | outline :: rest =>
      outline.encounters mode insideSelected ++
        encountersInList (mode.after (outline.nodes.countP pass.isCandidate)) insideSelected rest

end

mutual

/-- The walk meets all nodes. -/
theorem encounters_map_node (mode : Mode) (insideSelected : Bool) :
    (outline : Outline) →
      (outline.encounters pass mode insideSelected).map Encounter.node = outline.nodes
  | .node head children => by
      simp [encounters, nodes, encountersInList_map_node]

theorem encountersInList_map_node (mode : Mode) (insideSelected : Bool) :
    (outlines : List Outline) →
      (encountersInList pass mode insideSelected outlines).map Encounter.node =
        nodesOfList outlines
  | [] => rfl
  | outline :: rest => by
      simp [encountersInList, nodesOfList, encounters_map_node, encountersInList_map_node]

end

mutual

/-- What is selected are the candidates that the mode chooses. -/
theorem encounters_filter_selected (mode : Mode) (insideSelected : Bool) :
    (outline : Outline) →
      ((outline.encounters pass mode insideSelected).filter Encounter.selected).map
          Encounter.node =
        mode.choose (outline.nodes.filter pass.isCandidate)
  | .node head children => by
      cases candidate : pass.isCandidate head with
      | false =>
          have inside := encountersInList_filter_selected mode false children
          simpa [encounters, nodes, candidate] using inside
      | true =>
          have inside := encountersInList_filter_selected (mode.after 1) mode.selectsNext children
          cases selects : mode.selectsNext <;>
            simpa [encounters, nodes, candidate, Mode.choose_cons, selects] using inside

theorem encountersInList_filter_selected (mode : Mode) (insideSelected : Bool) :
    (outlines : List Outline) →
      ((encountersInList pass mode insideSelected outlines).filter Encounter.selected).map
          Encounter.node =
        mode.choose ((nodesOfList outlines).filter pass.isCandidate)
  | [] => by simp [encountersInList, nodesOfList]
  | outline :: rest => by
      have head := encounters_filter_selected mode insideSelected outline
      have tail := encountersInList_filter_selected
        (mode.after (outline.nodes.countP pass.isCandidate)) insideSelected rest
      simp [encountersInList, nodesOfList, Mode.choose_append, head, tail,
        ← List.countP_eq_length_filter]

end

end Outline

/-- The nodes of a program in the order of the walk, with what a pass selects of them. -/
def Program.encounters (pass : Pass) (mode : Mode) (program : Program) : List Encounter :=
  Outline.encountersInList pass mode false program.outlines

/--
Whether a pass takes the node away: it selects it, or it removes casts and the node
is the parentheses directly inside a cast that it selects.
-/
def Encounter.isUnwrapped (pass : Pass) (encounter : Encounter) : Bool :=
  encounter.selected ||
    (pass.kind == .cast && encounter.insideSelected && encounter.node.label == .paren)

/-! ## What is left of a skeleton -/

namespace Skeleton

section Labels

variable (pass : Pass)

mutual

/-- The labels in a skeleton without those of the nodes that a pass takes away. -/
def labelsLeft (mode : Mode) (insideSelected : Bool) : Skeleton → List Label
  | .node label parts =>
      let candidate := pass.isCandidateAt (.node label parts)
      let selected := candidate && mode.selectsNext
      (if selected || (pass.kind == .cast && insideSelected && label == some .paren) then []
        else label.toList) ++
          labelsLeftInParts (mode.after (if candidate then 1 else 0)) selected parts

/-- The labels in a list of parts without those of the nodes that a pass takes away. -/
def labelsLeftInParts (mode : Mode) (insideSelected : Bool) :
    List (Slot × Skeleton) → List Label
  | [] => []
  | (_, tree) :: rest =>
      tree.labelsLeft mode insideSelected ++
        labelsLeftInParts (mode.after (tree.candidatesIn pass)) insideSelected rest

end

/-- All labels in a skeleton, in the order of the source. -/
def labels (tree : Skeleton) : List Label :=
  tree.labelsIn fun _ => true

theorem labels_node (label : Option Label) (parts : List (Slot × Skeleton)) :
    (node label parts).labels = label.toList ++ labelsInParts (fun _ => true) parts := by
  rw [labels, labelsIn_node]
  cases label <;> rfl

end Labels

variable {pass : Pass}

/-- A pass that goes on with what it uncovers meets every candidate. -/
theorem reduce_candidates_of_revisits (unwraps : pass.kind.revisits = true) (tree : Skeleton)
    (mode : Mode) : (tree.reduce pass mode).candidates = tree.candidatesIn pass := by
  have single : pass.kind ≠ .diagnosticLog := RemovalKind.ne_of_revisits unwraps rfl
  have notBatchOnly := pass.isBatchOnly_eq_false single
  cases mode with
  | probe => exact reduce_probe_candidates pass notBatchOnly tree
  | all => exact reduce_all_candidates_of_revisits pass unwraps tree
  | nth index =>
      by_cases inRange : index < tree.candidatesIn pass
      · rw [← length_candidateSites] at inRange
        have counted := (reduce_nth_of_site pass single tree index _
          (List.getElem?_eq_getElem inRange)).counted
        simpa [hiddenIn, unwraps] using counted
      · rw [reduce_nth_of_le pass notBatchOnly tree index (by omega)]
        exact reduce_probe_candidates pass notBatchOnly tree

/-- What is left of a skeleton from which only wrappings are taken. -/
def Unwraps (pass : Pass) (tree : Skeleton) : Prop :=
  ∀ mode, ∃ after, (tree.reduce pass mode).value = some after ∧
    after.labels = tree.labelsLeft pass mode false

theorem exists_reduceParts_of_unwraps (unwraps : pass.kind.revisits = true) (shielded : Bool)
    (mode : Mode) (parts : List (Slot × Skeleton))
    (inside : ∀ part ∈ parts, part.2.Unwraps pass) :
    ∃ parts', (reduceParts pass shielded parts mode).value = some parts' ∧
      labelsInParts (fun _ => true) parts' = labelsLeftInParts pass mode false parts := by
  have notBlock : pass.kind ≠ .block := RemovalKind.ne_of_revisits unwraps rfl
  induction parts generalizing mode with
  | nil => exact ⟨[], by simp, rfl⟩
  | cons part rest ih =>
      rcases part with ⟨slot, tree⟩
      rcases List.forall_mem_cons.mp inside with ⟨ofTree, ofOthers⟩
      rcases ofTree mode with ⟨after, value, left⟩
      rcases ih (mode.after (tree.candidatesIn pass)) ofOthers with ⟨rest', ofRest, leftInRest⟩
      have met := reduce_candidates_of_revisits unwraps tree mode
      have kept := sweepsAt_eq_false pass notBlock slot tree
      simp only at value left
      refine ⟨(slot, after) :: rest', ?_, ?_⟩
      · rw [reduceParts_cons_apply pass shielded rest mode kept]
        simp [value, met, ofRest]
      · rw [labelsInParts_cons, labelsLeftInParts, leftInRest, ← left]
        rfl

/-- What is left of a node whose own label stays. -/
theorem exists_reduceKept_of_unwraps (unwraps : pass.kind.revisits = true) (tree : Skeleton)
    (mode : Mode) (inside : ∀ inner ∈ tree.descendants, inner.Unwraps pass) :
    ∃ after, (tree.reduceKept pass mode).value = some after ∧
      after.labels = tree.label?.toList ++ labelsLeftInParts pass mode false tree.parts := by
  rcases exists_reduceParts_of_unwraps unwraps (pass.shieldsAt tree) mode tree.parts
    (fun part member => inside part.2 (mem_descendants_of_mem_parts member)) with
    ⟨parts, ofParts, left⟩
  refine ⟨node tree.label? parts, ?_, ?_⟩
  · rw [reduceKept_apply]
    simp [ofParts]
  · rw [labels_node, left]

/-- Only where casts are removed it matters whether a node is inside of a selected one. -/
theorem labelsLeft_of_ne_cast (notCast : pass.kind ≠ .cast) (mode : Mode) (insideSelected : Bool)
    (tree : Skeleton) :
    tree.labelsLeft pass mode insideSelected = tree.labelsLeft pass mode false := by
  rcases tree with ⟨label, parts⟩
  simp [labelsLeft, notCast]

/-- The operand of a selected cast loses the parentheses around it. -/
theorem labelsLeft_of_cast (cast : pass.kind = .cast) (mode : Mode) {operand : Skeleton}
    (isNode : operand.IsNode) :
    operand.labelsLeft pass mode true = operand.unparenthesized.labelsLeft pass mode false := by
  rcases isNode with ⟨node, rfl⟩
  by_cases isParen : node.label = .paren
  · rcases Node.exists_of_label_paren isParen with ⟨inner, rfl⟩
    have notCandidate : pass.isCandidateAt (Node.expr (.paren inner)).skeleton = false := by
      rw [pass.isCandidateAt_skeleton]
      simp [Pass.isCandidate, Pass.matchesNode, Pass.matchesExpr, cast]
    simp only [Node.skeleton, Expr.skeleton] at notCandidate ⊢
    simp [labelsLeft, labelsLeftInParts, unparenthesized, cast, notCandidate]
  · have label := node.label?_skeleton
    have same : node.skeleton.unparenthesized = node.skeleton := by
      generalize node.skeleton = tree at label
      unfold unparenthesized
      split
      · exact (isParen (Option.some.inj label).symm).elim
      · rfl
    rw [same]
    generalize node.skeleton = tree at label
    rcases tree with ⟨own, parts⟩
    obtain rfl : own = some node.label := label
    simp [labelsLeft, isParen]

/-- What is left of a selected node is left of what it uncovers. -/
theorem labelsLeft_of_selected (unwraps : pass.kind.revisits = true)
    {tree inner : Skeleton} (isNode : tree.IsNode) (candidate : pass.isCandidateAt tree = true)
    {mode : Mode} (selects : mode.selectsNext = true)
    (uncovered : pass.revisited? tree = some inner) :
    tree.labelsLeft pass mode false = inner.labelsLeft pass (mode.after 1) false := by
  have kind := RemovalKind.cast_or_parenthesized_of_revisits unwraps
  rcases pass.exists_operand_of_isCandidateAt candidate kind with ⟨label, operand, rfl, removed⟩
  have isPart : (.operand, operand) ∈ (node (some label) [(.operand, operand)]).parts :=
    List.mem_cons_self ..
  have isOperand : operand.IsNode := isNode.of_mem_parts isPart
  have left : (node (some label) [(.operand, operand)]).labelsLeft pass mode false =
      operand.labelsLeft pass (mode.after 1) true := by
    simp [labelsLeft, labelsLeftInParts, candidate, selects]
  rw [left]
  rcases kind with cast | paren
  · obtain ⟨ty, rfl⟩ : ∃ ty, label = .cast ty := by
      cases label <;> simp_all [Label.removedBy?]
    obtain rfl : operand.unparenthesized = inner := by
      simpa [Pass.revisited?, Pass.replacement, cast, RemovalKind.revisits] using uncovered
    exact labelsLeft_of_cast cast _ isOperand
  · obtain rfl : label = .paren := by
      cases label <;> simp_all [Label.removedBy?]
    obtain rfl : operand = inner := by
      simpa [Pass.revisited?, Pass.replacement, paren, RemovalKind.revisits] using uncovered
    exact labelsLeft_of_ne_cast (by simp [paren]) _ true operand

/-- A pass that unwraps takes away nothing but the selected nodes and what goes with them. -/
theorem unwraps_of_isNode (unwraps : pass.kind.revisits = true) {tree : Skeleton}
    (isNode : tree.IsNode) : tree.Unwraps pass := by
  have notBatchOnly := pass.isBatchOnly_eq_false (RemovalKind.ne_of_revisits unwraps rfl)
  induction tree using Skeleton.induct_descendants with
  | node tree ih =>
      have inside : ∀ inner ∈ tree.descendants, inner.Unwraps pass := fun inner isInside =>
        ih inner isInside (isNode.of_mem_selfAndDescendants (List.mem_cons_of_mem _ isInside))
      intro mode
      cases candidate : pass.isCandidateAt tree with
      | false =>
          rcases exists_reduceKept_of_unwraps unwraps tree mode inside with ⟨after, value, left⟩
          refine ⟨after, ?_, ?_⟩
          · rw [reduce_of_not_isCandidateAt pass mode candidate, value]
          · rcases tree with ⟨label, parts⟩
            simp [labelsLeft, candidate, left]
      | true =>
          rw [reduce_of_isCandidateAt pass mode candidate (by simp [notBatchOnly])]
          cases selects : mode.selectsNext with
          | false =>
              rcases exists_reduceKept_of_unwraps unwraps tree (mode.after 1) inside with
                ⟨after, value, left⟩
              refine ⟨after, by simpa using value, ?_⟩
              rcases tree with ⟨label, parts⟩
              simp [labelsLeft, candidate, selects, left]
          | true =>
              rcases exists_uncovered_of_isCandidateAt pass unwraps candidate with
                ⟨inner, isInside, uncovered, _⟩
              rcases inside inner isInside (mode.after 1) with ⟨after, value, left⟩
              refine ⟨after, by simpa [reduceSelected, uncovered] using value, ?_⟩
              rw [left, labelsLeft_of_selected unwraps isNode candidate selects uncovered]

end Skeleton

/-! ## The walk and the skeleton -/

namespace Outline

variable (pass : Pass)

theorem Mirrors.countP_isCandidate {outline : Outline} {tree : Skeleton}
    (mirrors : outline.Mirrors tree) :
    outline.nodes.countP pass.isCandidate = tree.candidatesIn pass := by
  have candidates : pass.isCandidate = pass.isCandidateAt ∘ Node.skeleton := by
    funext node
    simp
  rw [candidates, ← List.countP_map, Mirrors.nodes_map_skeleton outline tree mirrors]
  rfl

mutual

/-- The labels that are left are those of the nodes that the walk does not lose. -/
theorem Mirrors.labelsLeft (mode : Mode) (insideSelected : Bool) :
    (outline : Outline) → (tree : Skeleton) → outline.Mirrors tree →
      tree.labelsLeft pass mode insideSelected =
        ((outline.encounters pass mode insideSelected).filter fun encounter =>
          !encounter.isUnwrapped pass).map fun encounter => encounter.node.label
  | .node head children, .node label parts, mirrors => by
      have alike : pass.isCandidateAt (.node label parts) = pass.isCandidate head := by
        rw [← mirrors.1, pass.isCandidateAt_skeleton]
      obtain rfl : label = some head.label := by
        rw [← head.label?_skeleton, mirrors.1]
        rfl
      have inside := MirrorParts.labelsLeft
        (mode.after (if pass.isCandidate head then 1 else 0))
        (pass.isCandidate head && mode.selectsNext) children parts mirrors.2
      let own : Encounter := ⟨head, pass.isCandidate head && mode.selectsNext, insideSelected⟩
      have same : (pass.isCandidate head && mode.selectsNext ||
          (pass.kind == .cast && insideSelected && some head.label == some .paren)) =
            own.isUnwrapped pass := by
        simp [Encounter.isUnwrapped, own]
      simp only [Skeleton.labelsLeft, encounters, alike, inside, same, List.filter_cons]
      cases own.isUnwrapped pass <;> simp

theorem MirrorParts.labelsLeft (mode : Mode) (insideSelected : Bool) :
    (outlines : List Outline) → (parts : List (Slot × Skeleton)) → MirrorParts outlines parts →
      Skeleton.labelsLeftInParts pass mode insideSelected parts =
        ((encountersInList pass mode insideSelected outlines).filter fun encounter =>
          !encounter.isUnwrapped pass).map fun encounter => encounter.node.label
  | [], [], _ => rfl
  | outline :: rest, (_, tree) :: parts, mirror => by
      have head := Mirrors.labelsLeft mode insideSelected outline tree mirror.1
      have tail := MirrorParts.labelsLeft (mode.after (tree.candidatesIn pass)) insideSelected
        rest parts mirror.2
      simp [Skeleton.labelsLeftInParts, encountersInList, head, tail,
        Mirrors.countP_isCandidate pass mirror.1]

end

end Outline

/-! ## Programs -/

namespace Program

variable (pass : Pass) (mode : Mode) (program : Program)

/-- The labels of the nodes of a program in the order of the walk. -/
def labels (program : Program) : List Label :=
  program.nodes.map Node.label

theorem labels_skeleton : program.skeleton.labels = program.labels := by
  rw [Skeleton.labels, labelsIn_skeleton, labels, List.filter_eq_self.mpr]
  exact fun _ _ => rfl

theorem encounters_map_node :
    (program.encounters pass mode).map Encounter.node = program.nodes :=
  Outline.encountersInList_map_node pass mode false program.outlines

theorem encounters_filter_selected :
    ((program.encounters pass mode).filter Encounter.selected).map Encounter.node =
      mode.choose (program.nodes.filter pass.isCandidate) :=
  Outline.encountersInList_filter_selected pass mode false program.outlines

end Program

namespace Pass

variable {pass : Pass}

/-- A pass that unwraps loses the labels of the nodes that it takes away, and no others. -/
theorem labels_apply_of_unwraps (unwraps : pass.kind.revisits = true)
    (program : Program) (mode : Mode) :
    (pass.apply program mode).value.labels =
      ((program.encounters pass mode).filter fun encounter =>
        !encounter.isUnwrapped pass).map fun encounter => encounter.node.label := by
  rcases Skeleton.exists_reduceParts_of_unwraps unwraps (pass.shieldsAt program.skeleton) mode
    program.skeleton.parts (fun part member =>
      Skeleton.unwraps_of_isNode unwraps (program.entry_of_mem_parts member).2) with
    ⟨parts, value, left⟩
  rw [pass.reduceParts_skeleton, Option.some.injEq] at value
  rw [← value] at left
  rw [← Program.labels_skeleton, Program.skeleton, Skeleton.labels_node]
  exact left.trans (Outline.MirrorParts.labelsLeft pass mode false _ _
    (Member.outlines_mirror program.members))

section Unwraps

variable (unwraps : pass.kind.revisits = true)

include unwraps

/-- The label decides what a kind is about that unwraps. -/
theorem isCandidate_iff_of_unwraps (node : Node) :
    pass.isCandidate node = true ↔ node.label.removedBy? = some pass.kind := by
  have single : pass.kind ≠ .diagnosticLog := RemovalKind.ne_of_revisits unwraps rfl
  have notBinary : pass.kind ≠ .binary := RemovalKind.ne_of_revisits unwraps rfl
  have notBlock : pass.kind ≠ .block := RemovalKind.ne_of_revisits unwraps rfl
  have unguarded : pass.kind.guardsMarkers = false := by
    rcases RemovalKind.cast_or_parenthesized_of_revisits unwraps with kind | kind <;>
      simp [kind, RemovalKind.guardsMarkers]
  constructor
  · intro candidate
    exact pass.removedBy?_of_isCandidate candidate single
  · intro removed
    simp [isCandidate, shields, unguarded, matchesNode_of_removedBy? removed notBinary notBlock]

/-- What a walk selects is what the kind is about. -/
theorem removedBy?_of_selected {program : Program} {mode : Mode} {encounter : Encounter}
    (member : encounter ∈ program.encounters pass mode) (selected : encounter.selected = true) :
    encounter.node.label.removedBy? = some pass.kind := by
  have isNode : encounter.node ∈ mode.choose (program.nodes.filter pass.isCandidate) := by
    rw [← program.encounters_filter_selected pass mode]
    exact List.mem_map_of_mem (List.mem_filter.mpr ⟨member, selected⟩)
  have candidate := (List.mem_filter.mp (Mode.mem_of_mem_choose isNode)).2
  exact (isCandidate_iff_of_unwraps unwraps encounter.node).mp candidate

/-- Labels that are not taken away stay, each in its place. -/
theorem labels_filter_apply (keep : Label → Bool)
    (gone : ∀ label, label = .paren ∨ label.removedBy? = some pass.kind → keep label = false)
    (program : Program) (mode : Mode) :
    (pass.apply program mode).value.labels.filter keep = program.labels.filter keep := by
  have kept : ∀ encounter ∈ program.encounters pass mode,
      (keep encounter.node.label && !encounter.isUnwrapped pass) = keep encounter.node.label := by
    intro encounter member
    cases unwrapped : encounter.isUnwrapped pass with
    | false => simp
    | true =>
        have lost : keep encounter.node.label = false := by
          refine gone _ ?_
          simp only [Encounter.isUnwrapped, Bool.or_eq_true, Bool.and_eq_true] at unwrapped
          rcases unwrapped with selected | ⟨_, isParen⟩
          · exact .inr (removedBy?_of_selected unwraps member selected)
          · exact .inl (by simpa using isParen)
        simp [lost]
  rw [labels_apply_of_unwraps unwraps, Program.labels, ← program.encounters_map_node pass mode,
    List.map_map, List.filter_map, List.filter_map, List.filter_filter]
  exact congrArg _ (List.filter_congr kept)

/-- A walk selects as many nodes as the mode takes of the candidates. -/
theorem length_encounters_selected (program : Program) (mode : Mode) :
    ((program.encounters pass mode).filter Encounter.selected).length =
      mode.taken (pass.probe program) := by
  have single : pass.kind ≠ .diagnosticLog := RemovalKind.ne_of_revisits unwraps rfl
  rw [pass.probe_eq_candidatesIn single, ← Skeleton.length_candidateSites,
    ← pass.candidatePlaces_map_snd, List.length_map,
    ← List.length_map Prod.fst, pass.candidatePlaces_map_fst,
    ← Mode.length_choose, ← program.encounters_filter_selected pass mode, List.length_map]

/-- Every selected candidate is one node less of those that the kind is about. -/
theorem countP_labels_apply (program : Program) (mode : Mode) :
    (pass.apply program mode).value.labels.countP (·.removedBy? == some pass.kind) +
        mode.taken (pass.probe program) =
      program.labels.countP (·.removedBy? == some pass.kind) := by
  let isOfKind : Encounter → Bool := fun encounter =>
    encounter.node.label.removedBy? == some pass.kind
  -- parentheses that go with a cast are not of the kind that is counted
  have lost : ∀ encounter ∈ program.encounters pass mode,
      (isOfKind encounter && encounter.isUnwrapped pass) = encounter.selected := by
    intro encounter member
    cases selected : encounter.selected with
    | true =>
        simp [isOfKind, Encounter.isUnwrapped, selected,
          removedBy?_of_selected unwraps member selected]
    | false =>
        rcases RemovalKind.cast_or_parenthesized_of_revisits unwraps with kind | kind
        · by_cases isParen : encounter.node.label = .paren <;>
            simp [isOfKind, Encounter.isUnwrapped, selected, kind, isParen, Label.removedBy?]
        · simp [Encounter.isUnwrapped, selected, kind]
  have gone : ((program.encounters pass mode).filter (Encounter.isUnwrapped pass)).countP
      isOfKind = mode.taken (pass.probe program) := by
    rw [List.countP_filter, ← length_encounters_selected unwraps program mode,
      ← List.countP_eq_length_filter]
    exact List.countP_congr fun encounter member => by rw [lost encounter member]
  rw [labels_apply_of_unwraps unwraps, Program.labels, ← program.encounters_map_node pass mode,
    List.map_map, List.countP_map, List.countP_map, ← gone, Nat.add_comm]
  exact (List.countP_eq_countP_filter_add _ _ _).symm

end Unwraps

/--
Removing parentheses or casts loses no code.  Every other label stays in its place,
and there is one pair of parentheses or one cast less for every candidate that is
selected.  With the casts go those parentheses, and only those, that are directly
inside of a selected cast.
-/
theorem unwrapping_loses_no_code (options : ReduceOptions) (program : Program) (mode : Mode) :
    let parens : Pass := ⟨.parenthesized, options⟩
    let casts : Pass := ⟨.cast, options⟩
    let withoutParens := (parens.apply program mode).value
    let withoutCasts := (casts.apply program mode).value
    let met := program.encounters casts mode
    (withoutParens.labels.filter (·.kind != .paren) = program.labels.filter (·.kind != .paren) ∧
      withoutParens.labels.countP (·.kind == .paren) + mode.taken (parens.probe program) =
        program.labels.countP (·.kind == .paren)) ∧
    (withoutCasts.labels.filter (fun label => label.kind != .cast && label.kind != .paren) =
        program.labels.filter (fun label => label.kind != .cast && label.kind != .paren) ∧
      withoutCasts.labels.countP (·.kind == .cast) + mode.taken (casts.probe program) =
        program.labels.countP (·.kind == .cast) ∧
      met.map Encounter.node = program.nodes ∧
      (met.filter Encounter.selected).map Encounter.node =
        mode.choose (program.nodes.filter casts.isCandidate) ∧
      withoutCasts.labels =
        (met.filter fun encounter => !(encounter.selected ||
          encounter.insideSelected && encounter.node.kind == .paren)).map (·.node.label)) := by
  intro parens casts withoutParens withoutCasts met
  have isParen : ∀ label : Label, (label.removedBy? == some parens.kind) =
      (label.kind == .paren) := by
    rintro (_ | _) <;> rfl
  have isCast : ∀ label : Label, (label.removedBy? == some casts.kind) =
      (label.kind == .cast) := by
    rintro (_ | _) <;> rfl
  have atParen : ∀ label : Label, (label == .paren) = (label.kind == .paren) := by
    rintro (_ | _) <;> rfl
  have ofParens : parens.kind.revisits = true := rfl
  have ofCasts : casts.kind.revisits = true := rfl
  refine ⟨⟨?_, ?_⟩, ?_, ?_, program.encounters_map_node casts mode,
    program.encounters_filter_selected casts mode, ?_⟩
  · refine labels_filter_apply ofParens _ ?_ program mode
    rintro label (rfl | removed)
    · rfl
    · have kind : (label.kind == .paren) = true := by simp [← isParen, removed]
      simp [bne, kind]
  · simpa only [isParen] using countP_labels_apply ofParens program mode
  · refine labels_filter_apply ofCasts _ ?_ program mode
    rintro label (rfl | removed)
    · rfl
    · have kind : (label.kind == .cast) = true := by simp [← isCast, removed]
      simp [bne, kind]
  · simpa only [isCast] using countP_labels_apply ofCasts program mode
  · simpa [Encounter.isUnwrapped, atParen, Node.kind, casts] using
      labels_apply_of_unwraps ofCasts program mode

/-- Of three pairs of parentheses the one stays that is not directly inside of a cast. -/
example :
    let tower : Expr := .cast "int" (.paren (.paren (.cast "long" (.paren (.ident "x")))))
    (apply ⟨.cast, .standard⟩ ⟨[⟨[], .field ⟨[], "int", "y", some tower⟩⟩]⟩ .all).value =
      ⟨[⟨[], .field ⟨[], "int", "y", some (.paren (.ident "x"))⟩⟩]⟩ := by
  rfl

end Pass

end Whittle

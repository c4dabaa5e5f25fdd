import Whittle.Proofs.CandidateCounts
import Whittle.Proofs.MarkerWords

/-!
# Survival of markers

The kinds that guard markers look at the text of a node before they delete it,
while gaps spread from part to node.  The two agree because a node mentions all
that its parts mention: what is deleted mentions no marker, and what does is
never left without an operand.

`markers_survive` says so for every mode.  Where a marker cannot run over several
words, the surviving nodes still mention one, for their labels do.
-/

namespace Whittle

/-- A part leaves something in its slot if the node is shielded or the gap does not spread. -/
theorem Slot.exists_fill {slot : Slot} {shielded : Bool}
    (held : shielded = true ∨ slot.gap ≠ .spreads) (before : Skeleton)
    (after : Option Skeleton) : ∃ parts, slot.fill shielded before after = some parts := by
  cases after with
  | some tree => exact ⟨_, rfl⟩
  | none =>
      cases gap : slot.gap with
      | closes => exact ⟨[], by simp [Slot.fill, gap]⟩
      | emptied => exact ⟨[(slot, .nothing)], by simp [Slot.fill, gap]⟩
      | spreads =>
          have isShielded : shielded = true := held.resolve_right fun free => free gap
          exact ⟨[(slot, before)], by simp [Slot.fill, gap, isShielded]⟩

namespace Skeleton

/-- Whether the skeleton is that of some node. -/
def IsNode (tree : Skeleton) : Prop :=
  ∃ node : Node, node.skeleton = tree

theorem IsNode.of_mem_parts {tree : Skeleton} (isNode : tree.IsNode) {part : Slot × Skeleton}
    (member : part ∈ tree.parts) : part.2.IsNode := by
  rcases isNode with ⟨node, rfl⟩
  rcases node.includes_of_mem_parts member with ⟨inner, isInner, _⟩
  exact ⟨inner, isInner.symm⟩

theorem IsNode.of_mem_selfAndDescendants {tree inner : Skeleton} (isNode : tree.IsNode)
    (member : inner ∈ tree.selfAndDescendants) : inner.IsNode := by
  rcases List.mem_cons.mp member with rfl | member
  · exact isNode
  · rcases isNode with ⟨node, rfl⟩
    rw [← node.inside_map_skeleton] at member
    rcases List.mem_map.mp member with ⟨innerNode, _, isInner⟩
    exact ⟨innerNode, isInner⟩

theorem IsNode.exists_label {label : Option Label} {parts : List (Slot × Skeleton)}
    (isNode : (node label parts).IsNode) : ∃ own, label = some own := by
  rcases isNode with ⟨node, isNode⟩
  exact ⟨node.label, by rw [← label?_node label parts, ← isNode, Node.label?_skeleton]⟩

end Skeleton

/-- The parts of a program are its declarations, as items of a list. -/
theorem Program.entry_of_mem_parts (program : Program) {part : Slot × Skeleton}
    (member : part ∈ program.skeleton.parts) : part.1 = .entry ∧ part.2.IsNode := by
  rcases Member.exists_of_mem_entries member with ⟨declaration, _, rfl⟩
  exact ⟨rfl, .member declaration, rfl⟩

namespace Skeleton

/-- The labels of those skeletons in a list that pass a test. -/
def labelsWhere (test : Skeleton → Bool) (trees : List Skeleton) : List Label :=
  (trees.filter test).filterMap label?

variable (test : Skeleton → Bool)

@[simp]
theorem labelsWhere_append (first second : List Skeleton) :
    labelsWhere test (first ++ second) = labelsWhere test first ++ labelsWhere test second := by
  simp [labelsWhere]

theorem labelsWhere_map_skeleton (nodes : List Node) :
    labelsWhere test (nodes.map Node.skeleton) =
      (nodes.filter fun node => test node.skeleton).map Node.label := by
  have label : label? ∘ Node.skeleton = some ∘ Node.label := by
    funext node
    simp
  rw [labelsWhere, List.filter_map, List.filterMap_map, label, List.filterMap_eq_map]
  rfl

variable {pass : Pass}

section OneLine

variable (oneLine : ∀ marker ∈ pass.options.markers, '\n' ∉ marker.toList)

include oneLine

/-- A node is shielded if one of its parts is. -/
theorem shieldsAt_of_mem_parts {tree : Skeleton} (isNode : tree.IsNode)
    {part : Slot × Skeleton} (member : part ∈ tree.parts)
    (shielded : pass.shieldsAt part.2 = true) : pass.shieldsAt tree = true := by
  rcases isNode with ⟨node, rfl⟩
  rcases node.includes_of_mem_parts member with ⟨inner, isInner, includes⟩
  rw [isInner, Pass.shieldsAt_skeleton] at shielded
  rw [Pass.shieldsAt_skeleton]
  simp only [Pass.shields, ReduceOptions.mentionsMarker, Bool.and_eq_true, List.any_eq_true,
    Text.occursIn_eq_true_iff] at shielded ⊢
  rcases shielded with ⟨guards, marker, isMarker, found⟩
  exact ⟨guards, marker, isMarker, includes _ (oneLine marker isMarker) found⟩

/-- Nothing in an unshielded node is shielded. -/
theorem labelsWhere_shieldsAt_eq_nil {tree : Skeleton} (isNode : tree.IsNode)
    (unshielded : pass.shieldsAt tree = false) :
    labelsWhere pass.shieldsAt tree.selfAndDescendants = [] := by
  have none : ∀ inner ∈ tree.selfAndDescendants, pass.shieldsAt inner = false := by
    induction tree using Skeleton.induct with
    | node label parts ih =>
        intro inner member
        rcases List.mem_cons.mp member with rfl | member
        · exact unshielded
        · rw [descendants, inParts_eq_flatMap, List.mem_flatMap] at member
          rcases member with ⟨part, isPart, member⟩
          have ofPart : pass.shieldsAt part.2 = false := by
            rw [Bool.eq_false_iff]
            intro shielded
            have above := shieldsAt_of_mem_parts oneLine isNode isPart shielded
            simp [unshielded] at above
          exact ih part isPart (isNode.of_mem_parts isPart) ofPart inner member
  rw [labelsWhere, List.filter_eq_nil_iff.mpr]
  · rfl
  · intro inner member
    simp [none inner member]

/-! ## What a pass keeps -/

/-- A rebuilt skeleton has the label of the one before and the labels of all that was shielded. -/
def Keeps (pass : Pass) (still : Skeleton → Bool) (before after : Skeleton) : Prop :=
  after.label? = before.label? ∧
    (labelsWhere pass.shieldsAt before.selfAndDescendants).Sublist
      (labelsWhere still after.selfAndDescendants)

variable (still : Skeleton → Bool)

/-- Rebuilding a list of parts keeps what is shielded if it is kept in each of them. -/
theorem exists_reduceParts_of_forall (guards : pass.kind.guardsMarkers = true) (shielded : Bool)
    (parts : List (Slot × Skeleton)) (areNodes : ∀ part ∈ parts, part.2.IsNode)
    (held : ∀ part ∈ parts, shielded = true ∨ part.1.gap ≠ .spreads)
    (alike : ∀ part ∈ parts, pass.shieldsAt part.2 = true → ∀ mode,
      ∃ after, (part.2.reduce pass mode).value = some after ∧ Keeps pass still part.2 after)
    (mode : Mode) :
    ∃ parts', (reduceParts pass shielded parts mode).value = some parts' ∧
      (labelsWhere pass.shieldsAt (inParts parts)).Sublist
        (labelsWhere still (inParts parts')) := by
  induction parts generalizing mode with
  | nil => exact ⟨[], by simp, List.Sublist.refl _⟩
  | cons part rest ih =>
      rcases part with ⟨slot, tree⟩
      have notBlock : pass.kind ≠ .block := by
        intro block
        simp [block, RemovalKind.guardsMarkers] at guards
      obtain ⟨rest', ofRest, restKept⟩ := ih
        (fun part member => areNodes part (List.mem_cons_of_mem _ member))
        (fun part member => held part (List.mem_cons_of_mem _ member))
        (fun part member => alike part (List.mem_cons_of_mem _ member))
        (mode.after (tree.reduce pass mode).candidates)
      have notSwept := sweepsAt_eq_false pass notBlock slot tree
      rw [reduceParts_cons_apply pass shielded rest mode notSwept]
      simp only [ofRest, inParts]
      rw [labelsWhere_append]
      cases shields : pass.shieldsAt tree with
      | true =>
          rcases alike (slot, tree) (by simp) shields mode with ⟨after, value, _, kept⟩
          refine ⟨(slot, after) :: rest', by simp [value, Slot.fill], ?_⟩
          rw [inParts, labelsWhere_append]
          exact kept.append restKept
      | false =>
          have nothing := labelsWhere_shieldsAt_eq_nil oneLine (areNodes (slot, tree) (by simp))
            shields
          obtain ⟨front, filled⟩ := Slot.exists_fill (held (slot, tree) (by simp)) tree
            (tree.reduce pass mode).value
          refine ⟨front ++ rest', by simp [filled], ?_⟩
          rw [inParts_append, labelsWhere_append]
          exact (nothing ▸ List.nil_sublist _).append restKept

/-- A shielded node is kept with all that is shielded in it. -/
theorem exists_reduce_of_shieldsAt (guards : pass.kind.guardsMarkers = true)
    (stays : ∀ tree after mode, tree.IsNode → pass.shieldsAt tree = true →
      (tree.reduce pass mode).value = some after → still after = true)
    (tree : Skeleton) (isNode : tree.IsNode) (shielded : pass.shieldsAt tree = true)
    (mode : Mode) :
    ∃ after, (tree.reduce pass mode).value = some after ∧ Keeps pass still tree after := by
  induction tree using Skeleton.induct generalizing mode with
  | node label parts ih =>
      have notCandidate := pass.isCandidateAt_of_shieldsAt shielded
      obtain ⟨parts', value, kept⟩ := exists_reduceParts_of_forall oneLine still guards true parts
        (fun part member => isNode.of_mem_parts member) (fun _ _ => .inl rfl)
        (fun part member shields => ih part member (isNode.of_mem_parts member) shields) mode
      have outcome : ((node label parts).reduce pass mode).value = some (node label parts') := by
        rw [reduce_of_not_isCandidateAt pass mode notCandidate, reduceKept_apply]
        simp [shielded, value]
      have stillShielded := stays _ _ mode isNode shielded outcome
      refine ⟨node label parts', outcome, rfl, ?_⟩
      rcases isNode.exists_label with ⟨own, rfl⟩
      simpa [labelsWhere, selfAndDescendants, descendants, shielded, stillShielded] using kept

/-- A pass keeps the labels of all nodes of a program that are shielded. -/
theorem labels_sublist_of_stays (guards : pass.kind.guardsMarkers = true)
    (stays : ∀ tree after mode, tree.IsNode → pass.shieldsAt tree = true →
      (tree.reduce pass mode).value = some after → still after = true)
    (program : Program) (mode : Mode) :
    (labelsWhere pass.shieldsAt program.skeleton.descendants).Sublist
      (labelsWhere still (pass.apply program mode).value.skeleton.descendants) := by
  have areNodes : ∀ part ∈ program.skeleton.parts, part.2.IsNode := by
    intro part member
    exact (program.entry_of_mem_parts member).2
  have held : ∀ part ∈ program.skeleton.parts,
      pass.shieldsAt program.skeleton = true ∨ part.1.gap ≠ .spreads := by
    intro part member
    right
    rw [(program.entry_of_mem_parts member).1]
    simp [Slot.gap]
  rcases exists_reduceParts_of_forall oneLine still guards (pass.shieldsAt program.skeleton)
      program.skeleton.parts areNodes held
      (fun part member shields => exists_reduce_of_shieldsAt oneLine still guards stays part.2
        (areNodes part member) shields) mode with
    ⟨parts, ofParts, kept⟩
  rw [pass.reduceParts_skeleton, Option.some.injEq] at ofParts
  rw [← ofParts] at kept
  exact kept

end OneLine

/-! ## Markers that are single words -/

section Words

variable (spelled : ∀ marker ∈ pass.options.markers, Text.IsMarker marker.toList)

include spelled

theorem oneLine_of_spelled : ∀ marker ∈ pass.options.markers, '\n' ∉ marker.toList := by
  intro marker isMarker newline
  have isChar := (spelled marker isMarker).spelled _ newline
  simp [Text.isMarkerChar] at isChar

/-- A node is shielded just if one of the labels in it spells a marker. -/
theorem shields_iff_exists_label (guards : pass.kind.guardsMarkers = true) (node : Node) :
    pass.shields node = true ↔
      ∃ marker ∈ pass.options.markers, ∃ inner ∈ node.skeleton.selfAndDescendants,
        ∃ label, inner.label? = some label ∧ label.spells marker.toList = true := by
  have spells : ∀ marker ∈ pass.options.markers,
      Text.occursIn marker.toList node.chars =
        node.skeleton.selfAndDescendants.any fun inner =>
          inner.label?.any (Label.spells marker.toList) := by
    intro marker isMarker
    rw [node.occursIn_chars (spelled marker isMarker), spells_eq_any]
  simp only [Pass.shields, guards, Bool.true_and, ReduceOptions.mentionsMarker, List.any_eq_true]
  constructor
  · rintro ⟨marker, isMarker, found⟩
    rw [spells marker isMarker] at found
    simp only [List.any_eq_true, Option.any_eq_true] at found
    exact ⟨marker, isMarker, found⟩
  · rintro ⟨marker, isMarker, found⟩
    refine ⟨marker, isMarker, ?_⟩
    rw [spells marker isMarker]
    simpa only [List.any_eq_true, Option.any_eq_true] using found

/-- What is left of a shielded node is shielded. -/
theorem shieldsAt_of_reduce (guards : pass.kind.guardsMarkers = true) (tree after : Skeleton)
    (mode : Mode) (isNode : tree.IsNode) (shielded : pass.shieldsAt tree = true)
    (value : (tree.reduce pass mode).value = some after) : pass.shieldsAt after = true := by
  obtain ⟨after', value', _, kept⟩ := exists_reduce_of_shieldsAt (oneLine_of_spelled spelled)
    (fun _ => true) guards (fun _ _ _ _ _ _ => rfl) tree isNode shielded mode
  obtain rfl : after' = after := by
    rw [value', Option.some.injEq] at value
    exact value
  rcases isNode with ⟨node, rfl⟩
  obtain ⟨node', isNode'⟩ : after'.IsNode := by
    rw [node.reduce_skeleton, Survey.map_apply, Option.map_eq_some_iff] at value
    rcases value with ⟨node', _, isNode'⟩
    exact ⟨node', isNode'⟩
  rw [← isNode', Pass.shieldsAt_skeleton, shields_iff_exists_label spelled guards]
  rw [Pass.shieldsAt_skeleton, shields_iff_exists_label spelled guards] at shielded
  rcases shielded with ⟨marker, isMarker, inner, isInside, label, isLabel, spells⟩
  refine ⟨marker, isMarker, ?_⟩
  have innerShielded : pass.shieldsAt inner = true := by
    rcases IsNode.of_mem_selfAndDescendants ⟨node, rfl⟩ isInside with ⟨innerNode, rfl⟩
    rw [Pass.shieldsAt_skeleton, shields_iff_exists_label spelled guards]
    exact ⟨marker, isMarker, innerNode.skeleton, List.mem_cons_self .., label, isLabel, spells⟩
  have inOld : label ∈ labelsWhere pass.shieldsAt node.skeleton.selfAndDescendants :=
    List.mem_filterMap.mpr ⟨inner, List.mem_filter.mpr ⟨isInside, innerShielded⟩, isLabel⟩
  rcases List.mem_filterMap.mp (kept.subset inOld) with ⟨inner', isInside', isLabel'⟩
  rw [isNode']
  exact ⟨inner', (List.mem_filter.mp isInside').1, label, isLabel', spells⟩

end Words

end Skeleton

/-! ## Programs -/

/-- The standard markers are single words. -/
theorem ReduceOptions.isMarker_of_mem_standard :
    ∀ marker ∈ ReduceOptions.standard.markers, Text.IsMarker marker.toList := by
  intro marker member
  simp only [ReduceOptions.standard, List.mem_cons, List.not_mem_nil, or_false] at member
  rcases member with rfl | rfl
  · exact ⟨rfl, List.all_eq_true.mp (by decide)⟩
  · exact ⟨rfl, List.all_eq_true.mp (by decide)⟩

namespace Pass

variable (pass : Pass)

theorem labelsWhere_shieldsAt_descendants (guards : pass.kind.guardsMarkers = true)
    (program : Program) :
    Skeleton.labelsWhere pass.shieldsAt program.skeleton.descendants =
      (program.nodes.filter pass.options.mentionsMarker).map Node.label := by
  have alike : (fun node : Node => pass.shieldsAt node.skeleton) =
      pass.options.mentionsMarker := by
    funext node
    simp [shields, guards]
  rw [← program.nodes_map_skeleton, Skeleton.labelsWhere_map_skeleton, alike]

/--
The kinds that guard markers never remove a node that mentions one: in every
mode the labels of these nodes are among those of the rebuilt program, in the
same order.  With the standard markers the surviving nodes mention one, too.
-/
theorem markers_survive (program : Program) (mode : Mode)
    (guards : pass.kind.guardsMarkers = true)
    (oneLine : ∀ marker ∈ pass.options.markers, '\n' ∉ marker.toList) :
    ((program.nodes.filter pass.options.mentionsMarker).map Node.label).Sublist
        ((pass.apply program mode).value.nodes.map Node.label) ∧
      (pass.options.markers = ReduceOptions.standard.markers →
        ((program.nodes.filter pass.options.mentionsMarker).map Node.label).Sublist
          (((pass.apply program mode).value.nodes.filter pass.options.mentionsMarker).map
            Node.label)) := by
  rw [← pass.labelsWhere_shieldsAt_descendants guards program]
  constructor
  · have kept := Skeleton.labels_sublist_of_stays oneLine (fun _ => true) guards
      (fun _ _ _ _ _ _ => rfl) program mode
    rw [← (pass.apply program mode).value.nodes_map_skeleton, Skeleton.labelsWhere_map_skeleton,
      List.filter_eq_self.mpr fun _ _ => rfl] at kept
    exact kept
  · intro standard
    have spelled : ∀ marker ∈ pass.options.markers, Text.IsMarker marker.toList := by
      rw [standard]
      exact ReduceOptions.isMarker_of_mem_standard
    rw [← pass.labelsWhere_shieldsAt_descendants guards]
    exact Skeleton.labels_sublist_of_stays oneLine pass.shieldsAt guards
      (Skeleton.shieldsAt_of_reduce spelled guards) program mode

/-- An assignment inside of one to a loop counter. -/
def counterAssignment : Program :=
  ⟨[⟨[], .method ⟨[], "void", "f", [],
    [⟨[], .expr (.assign .assign (.ident "__loopvar")
      (.assign .assign (.ident "y") (.literal (.int 1))))⟩]⟩⟩]⟩

/-- What mentions the loop counter survives the removal of all assignments. -/
theorem markers_survive_counter :
    ((counterAssignment.nodes.filter ReduceOptions.standard.mentionsMarker).map Node.label).Sublist
        ((apply ⟨.assignment, .standard⟩ counterAssignment .all).value.nodes.map Node.label) ∧
      (ReduceOptions.standard.markers = ReduceOptions.standard.markers →
        ((counterAssignment.nodes.filter ReduceOptions.standard.mentionsMarker).map
          Node.label).Sublist
            (((apply ⟨.assignment, .standard⟩ counterAssignment .all).value.nodes.filter
              ReduceOptions.standard.mentionsMarker).map Node.label)) :=
  markers_survive ⟨.assignment, .standard⟩ counterAssignment .all (by decide)
    (by decide)

end Pass

end Whittle

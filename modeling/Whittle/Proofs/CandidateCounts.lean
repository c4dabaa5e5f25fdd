import Whittle.Proofs.SingleRemoval

/-!
# Counts of candidates

The candidates of a pass are the nodes that the walk meets and that the kind is
about.  How many of them a pass counts depends on the mode only through what it
does not go into: a probe goes everywhere, a pass that removes one candidate
does not go into that one, and one that removes all does not go into any.
Kinds that unwrap go on with what they uncover, so they miss none.
-/

namespace Whittle

/-! ## Nodes with the nodes around them -/

namespace Outline

mutual

/-- The nodes of an outline in the order of the walk, each with the nodes around it. -/
def nested (around : List Node) : Outline → List (Node × List Node)
  | .node head children => (head, around) :: nestedInList (head :: around) children

/-- The nodes of a list of outlines, each with the nodes around it. -/
def nestedInList (around : List Node) : List Outline → List (Node × List Node)
  | [] => []
  | outline :: rest => outline.nested around ++ nestedInList around rest

end

mutual

theorem nested_map_fst (around : List Node) :
    (outline : Outline) → (outline.nested around).map Prod.fst = outline.nodes
  | .node head children => by
      simp [nested, nodes, nestedInList_map_fst (head :: around) children]

theorem nestedInList_map_fst (around : List Node) :
    (outlines : List Outline) → (nestedInList around outlines).map Prod.fst = nodesOfList outlines
  | [] => rfl
  | outline :: rest => by
      simp [nestedInList, nodesOfList, nested_map_fst around outline,
        nestedInList_map_fst around rest]

end

/-- The nodes strictly inside an outline. -/
def inside : Outline → List Node
  | .node _ children => nodesOfList children

end Outline

/-- The nodes strictly inside a node. -/
def Node.inside (node : Node) : List Node :=
  node.outline.inside

theorem Node.inside_map_skeleton (node : Node) :
    node.inside.map Node.skeleton = node.skeleton.descendants := by
  have mirrors := node.outline_mirrors
  rw [Node.inside]
  cases isOutline : node.outline with
  | node head children =>
      cases isSkeleton : node.skeleton with
      | node label parts =>
          rw [isOutline, isSkeleton] at mirrors
          exact Outline.MirrorParts.nodes_map_skeleton children parts mirrors.2

/-- The nodes of a program in the order of the walk, each with the nodes around it. -/
def Program.nested (program : Program) : List (Node × List Node) :=
  Outline.nestedInList [] program.outlines

/-! ## Candidates that are inside no other -/

namespace Skeleton

variable (pass : Pass)

mutual

/-- The number of candidates in a skeleton that are inside no other. -/
def outermostIn : Skeleton → Nat
  | .node label parts =>
      if pass.isCandidateAt (.node label parts) then 1 else outermostInParts parts

/-- The number of candidates in a list of parts that are inside no other. -/
def outermostInParts : List (Slot × Skeleton) → Nat
  | [] => 0
  | (_, tree) :: rest => tree.outermostIn + outermostInParts rest

end

theorem outermostInParts_eq_total (parts : List (Slot × Skeleton)) :
    outermostInParts pass parts = total (outermostIn pass) parts := by
  induction parts with
  | nil => rfl
  | cons part rest ih => simp [outermostInParts, total, ih]

theorem outermostIn_of_sweepsAt {slot : Slot} {tree : Skeleton}
    (sweeps : pass.sweepsAt slot tree = true) : tree.outermostIn pass = 0 := by
  have none := candidatesIn_of_sweepsAt pass sweeps
  unfold Pass.sweepsAt at sweeps
  split at sweeps
  · cases candidate : pass.isCandidateAt (node (some .block) []) with
    | false => simp [outermostIn, candidate, outermostInParts]
    | true => simp [candidatesIn_eq, candidate] at none
  · cases sweeps

/-- Removing all candidates of a kind that does not unwrap meets those that are inside no other. -/
theorem reduce_all_candidates_of_final (single : pass.kind.isBatchOnly = false)
    (final : pass.kind.revisits = false) (tree : Skeleton) :
    (tree.reduce pass .all).candidates = tree.outermostIn pass := by
  induction tree using Skeleton.induct with
  | node label parts ih =>
      cases candidate : pass.isCandidateAt (node label parts) with
      | false =>
          rw [reduce_of_not_isCandidateAt pass _ candidate, reduceKept_apply, outermostIn,
            candidate, outermostInParts_eq_total]
          exact reduceParts_candidates_of_forall pass _ .all parts _ (fun _ => rfl)
            (fun _ _ => outermostIn_of_sweepsAt pass) ih
      | true =>
          rw [reduce_of_isCandidateAt pass _ candidate (by simp [single])]
          simp [Mode.selectsNext, reduceSelected, Pass.revisited?, final, outermostIn, candidate]

/-- Removing all candidates of a kind that unwraps meets all of them. -/
theorem reduce_all_candidates_of_revisits (unwraps : pass.kind.revisits = true)
    (tree : Skeleton) : (tree.reduce pass .all).candidates = tree.candidatesIn pass := by
  have single : pass.kind.isBatchOnly = false := by
    cases kind : pass.kind <;> simp_all [RemovalKind.revisits, RemovalKind.isBatchOnly]
  induction tree using Skeleton.induct_descendants with
  | node tree ih =>
      cases candidate : pass.isCandidateAt tree with
      | false =>
          rw [reduce_of_not_isCandidateAt pass _ candidate, reduceKept_apply, candidatesIn_eq,
            candidate, candidatesInParts_eq_total]
          simp only [Bool.false_eq_true, if_false, Nat.zero_add]
          refine reduceParts_candidates_of_forall pass _ .all tree.parts _ (fun _ => rfl)
            (fun _ _ => candidatesIn_of_sweepsAt pass) fun part member => ih part.2 ?_
          exact mem_descendants_of_mem_parts member
      | true =>
          rcases exists_uncovered_of_isCandidateAt pass unwraps candidate with
            ⟨inner, isInside, uncovered, alike⟩
          have ofInner := ih inner isInside
          rw [reduce_of_isCandidateAt pass _ candidate (by simp [single])]
          simp [Mode.selectsNext, Mode.after, reduceSelected, uncovered, ofInner, alike,
            candidatesIn_eq pass tree, candidate]

end Skeleton

/-! ## Counts of a program -/

namespace Pass

variable (pass : Pass)

/-- Whether a node is a candidate and none of those around it is one. -/
def isOutermost (place : Node × List Node) : Bool :=
  pass.isCandidate place.1 && place.2.all fun node => !pass.isCandidate node

mutual

/-- The candidates of an outline that are inside no other are those of its skeleton. -/
theorem countP_isOutermost_nested (around : List Node) :
    (outline : Outline) → (tree : Skeleton) → outline.Mirrors tree →
      (outline.nested around).countP pass.isOutermost =
        if around.any pass.isCandidate then 0 else tree.outermostIn pass
  | .node head children, .node label parts, mirrors => by
      have inside := countP_isOutermost_nestedInList (head :: around) children parts mirrors.2
      have alike : pass.isCandidateAt (.node label parts) = pass.isCandidate head := by
        rw [← mirrors.1, isCandidateAt_skeleton]
      have others : (around.all fun node => !pass.isCandidate node) =
          !around.any pass.isCandidate := List.not_any_eq_all_not.symm
      simp only [Outline.nested, List.countP_cons, inside, isOutermost, Skeleton.outermostIn, alike,
        List.any_cons, others]
      by_cases isHead : pass.isCandidate head = true <;>
        by_cases isAround : around.any pass.isCandidate = true <;>
          simp only [isHead, isAround] <;> simp

theorem countP_isOutermost_nestedInList (around : List Node) :
    (outlines : List Outline) → (parts : List (Slot × Skeleton)) →
      Outline.MirrorParts outlines parts →
        (Outline.nestedInList around outlines).countP pass.isOutermost =
          if around.any pass.isCandidate then 0 else Skeleton.outermostInParts pass parts
  | [], [], _ => by simp [Outline.nestedInList, Skeleton.outermostInParts]
  | outline :: rest, (_, tree) :: parts, mirror => by
      have head := countP_isOutermost_nested around outline tree mirror.1
      have tail := countP_isOutermost_nestedInList around rest parts mirror.2
      simp only [Outline.nestedInList, List.countP_append, head, tail, Skeleton.outermostInParts]
      split <;> rfl

end

/-- A node of a program has as many candidates inside as its skeleton. -/
theorem countP_inside (node : Node) :
    node.inside.countP pass.isCandidate =
      Skeleton.candidatesInParts pass node.skeleton.parts := by
  have candidates : pass.isCandidate = pass.isCandidateAt ∘ Node.skeleton := by
    funext node
    simp
  cases isSkeleton : node.skeleton with
  | node label parts =>
      have inside := node.inside_map_skeleton
      rw [isSkeleton, Skeleton.descendants] at inside
      rw [candidates, ← List.countP_map, inside]
      rfl

/-- The candidates of a program with the nodes around them, in the order of the walk. -/
def nestedCandidates (program : Program) : List (Node × List Node) :=
  program.nested.filter fun place => pass.isCandidate place.1

theorem nestedCandidates_map_fst (program : Program) :
    (pass.nestedCandidates program).map Prod.fst = program.nodes.filter pass.isCandidate := by
  rw [Program.nodes, ← Outline.nestedInList_map_fst [], List.filter_map]
  rfl

theorem length_nestedCandidates (program : Program) :
    (pass.nestedCandidates program).length = program.skeleton.candidatesIn pass := by
  rw [← List.length_map Prod.fst, pass.nestedCandidates_map_fst, ← pass.candidatePlaces_map_fst,
    List.length_map, ← List.length_map Prod.snd, pass.candidatePlaces_map_snd,
    Skeleton.length_candidateSites]

/-- The candidates of a program that are inside no other are those of its skeleton. -/
theorem countP_around_nestedCandidates (program : Program) :
    ((pass.nestedCandidates program).countP fun place =>
      place.2.all fun node => !pass.isCandidate node) = program.skeleton.outermostIn pass := by
  have outermost : program.nested.countP pass.isOutermost =
      Skeleton.outermostInParts pass (Member.entries program.members) :=
    pass.countP_isOutermost_nestedInList [] _ _ (Member.outlines_mirror program.members)
  rw [nestedCandidates, List.countP_filter, Program.skeleton, Skeleton.outermostIn,
    pass.isCandidateAt_node_none, ← outermost]
  refine List.countP_congr fun place _ => ?_
  simp [isOutermost, and_comm]

/--
All modes count the candidates that the walk meets.  A probe counts every one of
them; a pass that removes one leaves out those inside it, and a pass that removes
all leaves out those inside of others.  Nothing is left out when the kind unwraps
what it removes.
-/
theorem candidates_eq_walk (program : Program) (single : pass.kind ≠ .diagnosticLog) :
    (pass.nestedCandidates program).map Prod.fst = program.nodes.filter pass.isCandidate ∧
      (pass.apply program .probe).candidates = (pass.nestedCandidates program).length ∧
        (∀ index (inRange : index < (pass.nestedCandidates program).length),
          (pass.apply program (.nth index)).candidates +
            (if pass.kind.revisits then 0
              else ((pass.nestedCandidates program)[index]).1.inside.countP pass.isCandidate) =
            (pass.nestedCandidates program).length) ∧
          (pass.apply program .all).candidates =
            if pass.kind.revisits then (pass.nestedCandidates program).length
            else (pass.nestedCandidates program).countP fun place =>
              place.2.all fun node => !pass.isCandidate node := by
  refine ⟨pass.nestedCandidates_map_fst program, ?_, ?_, ?_⟩
  · rw [length_nestedCandidates]
    exact pass.probe_eq_candidatesIn single program
  · intro index inRange
    have atIndex := congrArg (fun nodes => nodes[index]?) (pass.nestedCandidates_map_fst program)
    simp only [List.getElem?_map, List.getElem?_eq_getElem inRange, Option.map_some,
      ← pass.candidatePlaces_map_fst] at atIndex
    rcases Option.map_eq_some_iff.mp atIndex.symm with ⟨⟨node, site⟩, found, isNode⟩
    rcases pass.site_of_candidatePlaces found with ⟨atNode, atSite⟩
    have counted :=
      (Skeleton.reduce_nth_of_site pass single program.skeleton index site atSite).counted
    rw [pass.apply_skeleton, atNode, Skeleton.hiddenIn, ← pass.countP_inside] at counted
    rw [← isNode, length_nestedCandidates]
    exact counted
  · have notBatchOnly := pass.isBatchOnly_eq_false single
    have counted : (pass.apply program .all).candidates =
        (program.skeleton.reduce pass .all).candidates := by
      rw [pass.apply_skeleton]
    cases unwraps : pass.kind.revisits with
    | false =>
        rw [counted, Skeleton.reduce_all_candidates_of_final pass notBatchOnly unwraps,
          ← pass.countP_around_nestedCandidates]
        rfl
    | true =>
        rw [counted, Skeleton.reduce_all_candidates_of_revisits pass unwraps,
          ← pass.length_nestedCandidates]
        rfl

/-- The counts for one assignment inside another. -/
theorem candidates_eq_walk_chained :
    (nestedCandidates ⟨.assignment, .standard⟩ chainedAssignment).map Prod.fst =
        chainedAssignment.nodes.filter (isCandidate ⟨.assignment, .standard⟩) ∧
      (apply ⟨.assignment, .standard⟩ chainedAssignment .probe).candidates =
          (nestedCandidates ⟨.assignment, .standard⟩ chainedAssignment).length ∧
        (∀ index (inRange :
            index < (nestedCandidates ⟨.assignment, .standard⟩ chainedAssignment).length),
          (apply ⟨.assignment, .standard⟩ chainedAssignment (.nth index)).candidates +
            (if RemovalKind.assignment.revisits then 0
              else ((nestedCandidates ⟨.assignment, .standard⟩ chainedAssignment)[index]
                ).1.inside.countP (isCandidate ⟨.assignment, .standard⟩)) =
            (nestedCandidates ⟨.assignment, .standard⟩ chainedAssignment).length) ∧
          (apply ⟨.assignment, .standard⟩ chainedAssignment .all).candidates =
            if RemovalKind.assignment.revisits then
              (nestedCandidates ⟨.assignment, .standard⟩ chainedAssignment).length
            else (nestedCandidates ⟨.assignment, .standard⟩ chainedAssignment).countP fun place =>
              place.2.all fun node => !isCandidate ⟨.assignment, .standard⟩ node :=
  candidates_eq_walk ⟨.assignment, .standard⟩ chainedAssignment (by decide)

end Pass

end Whittle

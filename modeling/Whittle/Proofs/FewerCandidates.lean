import Whittle.Proofs.OneByOne

/-!
# Fewer candidates

With the standard options a pass makes no candidates, unless it is assignments
that are removed.  A node that is none does not become one, what takes the place
of a candidate has none but those it had before, and an empty statement is none.
So every candidate that a pass selects is one less in what it leaves, and those
that go with it are more than it owes.

`probe_lt_of_apply_nth` says it of a program and one candidate.
-/

namespace Whittle

/-! ## How many are selected -/

namespace Mode

/-- How many of a number of candidates in a row are selected. -/
def taken (mode : Mode) (count : Nat) : Nat :=
  match mode with
  | .probe => 0
  | .nth index => if index < count then 1 else 0
  | .all => count

theorem taken_le (mode : Mode) (count : Nat) : mode.taken count ≤ count := by
  cases mode with
  | probe => exact Nat.zero_le count
  | nth index =>
      simp only [taken]
      split <;> omega
  | all => exact Nat.le_refl count

@[simp]
theorem taken_zero (mode : Mode) : mode.taken 0 = 0 :=
  Nat.le_zero.mp (mode.taken_le 0)

@[simp]
theorem taken_one (mode : Mode) : mode.taken 1 = if mode.selectsNext then 1 else 0 := by
  match mode with
  | .probe => rfl
  | .nth 0 => rfl
  | .nth (_ + 1) => simp [taken, selectsNext]
  | .all => rfl

/-- What is selected first is not left to select. -/
theorem taken_add (mode : Mode) (first second : Nat) :
    mode.taken (first + second) = mode.taken first + (mode.after first).taken second := by
  cases mode with
  | probe => rfl
  | all => rfl
  | nth index =>
      by_cases isFirst : index < first
      · have within : index < first + second := by omega
        simp [taken, after, isFirst, within]
      · simp only [taken, after, isFirst, if_false, Nat.zero_add]
        congr 1
        exact propext (by omega)

end Mode

namespace Skeleton

variable {pass : Pass} {tree after : Skeleton}

/-- What is left to select after a part takes as many of the rest as if all of the part was met. -/
theorem taken_add_le (single : pass.kind ≠ .diagnosticLog) (tree : Skeleton) (mode : Mode)
    (others : Nat) :
    mode.taken (tree.candidatesIn pass + others) ≤
      mode.taken (tree.candidatesIn pass) +
        (mode.after (tree.reduce pass mode).candidates).taken others := by
  have notBatchOnly := pass.isBatchOnly_eq_false single
  cases mode with
  | probe => exact Nat.zero_le _
  | all => exact Nat.le_refl _
  | nth index =>
      by_cases inTree : index < tree.candidatesIn pass
      · simp only [Mode.taken, inTree, if_true]
        split <;> omega
      · have past := reduce_nth_of_le pass notBatchOnly tree index (by omega)
        have met := reduce_probe_candidates pass notBatchOnly tree
        rw [Mode.taken_add, past, met]

/-! ## What stands in a slot -/

/-- The candidates in a slot are those of what was rebuilt. -/
theorem candidatesInParts_of_fill (standard : pass.options = .standard) {slot : Slot}
    {before : Skeleton} {rebuilt : Option Skeleton} {parts : List (Slot × Skeleton)}
    (filled : slot.fill false before rebuilt = some parts) :
    candidatesInParts pass parts = rebuilt.elim 0 (candidatesIn pass) := by
  have filling := Slot.filling_of_fill filled
  cases filling with
  | rebuilt after => simp
  | closed => rfl
  | emptied _ =>
      have settled : nothing.Settled pass := settled_nothing standard
      simp [settled_iff_candidatesIn.mp settled]
  | kept isShielded _ => cases isShielded

/-- A pass leaves a skeleton with fewer candidates, at least one less for each that it selects. -/
def Lessens (pass : Pass) (tree : Skeleton) : Prop :=
  ∀ mode after, (tree.reduce pass mode).value = some after →
    after.candidatesIn pass + mode.taken (tree.candidatesIn pass) ≤ tree.candidatesIn pass

/-- What takes the place of a candidate has none but those inside it. -/
theorem candidatesIn_of_reduceSelected (candidate : pass.isCandidateAt tree = true)
    (inside : ∀ inner ∈ tree.descendants, inner.Lessens pass) {mode : Mode}
    (value : (tree.reduceSelected pass mode).value = some after) :
    after.candidatesIn pass + mode.taken (candidatesInParts pass tree.parts) ≤
      candidatesInParts pass tree.parts := by
  cases unwraps : pass.kind.revisits with
  | true =>
      rcases exists_uncovered_of_isCandidateAt pass unwraps candidate with
        ⟨inner, isInside, uncovered, alike⟩
      rw [reduceSelected, uncovered] at value
      rw [← alike]
      exact inside inner isInside mode after value
  | false =>
      have replaced : pass.replacement tree = some after := by
        simpa [reduceSelected, Pass.revisited?, unwraps] using value
      have none := settled_iff_candidatesIn.mp (settled_of_replacement unwraps replaced)
      rw [none, Nat.zero_add]
      exact mode.taken_le _

section Lessens

variable (standard : pass.options = .standard) (single : pass.kind ≠ .diagnosticLog)

include standard single

theorem candidatesInParts_of_reduceParts {mode : Mode} {parts parts' : List (Slot × Skeleton)}
    (lessens : ∀ part ∈ parts, part.2.Lessens pass)
    (value : (reduceParts pass false parts mode).value = some parts') :
    candidatesInParts pass parts' + mode.taken (candidatesInParts pass parts) ≤
      candidatesInParts pass parts := by
  induction parts generalizing mode parts' with
  | nil =>
      obtain rfl : [] = parts' := by simpa using value
      simp
  | cons part rest ih =>
      rcases part with ⟨slot, tree⟩
      rcases List.forall_mem_cons.mp lessens with ⟨ofTree, ofOthers⟩
      rw [candidatesInParts_cons]
      rcases reduceParts_cons_cases pass value with
        ⟨sweeps, ofRest⟩ | ⟨_, front, rest', filled, ofRest, rfl⟩
      · have left := ih ofOthers ofRest
        rw [candidatesIn_of_sweepsAt pass sweeps, Nat.zero_add]
        exact left
      · have left := ih ofOthers ofRest
        have selected := taken_add_le single tree mode (candidatesInParts pass rest)
        have inFront : candidatesInParts pass front + mode.taken (tree.candidatesIn pass) ≤
            tree.candidatesIn pass := by
          rw [candidatesInParts_of_fill standard filled]
          cases rebuilt : (tree.reduce pass mode).value with
          | some after => exact ofTree mode after rebuilt
          | none => simpa using mode.taken_le (tree.candidatesIn pass)
        rw [candidatesInParts_append]
        omega

/-- A node that stays has fewer candidates, for its parts have. -/
theorem candidatesIn_of_reduceKept (notAssignment : pass.kind ≠ .assignment)
    (isNode : tree.IsNode) (inside : ∀ inner ∈ tree.descendants, inner.Lessens pass) {mode : Mode}
    (value : (tree.reduceKept pass mode).value = some after) :
    candidatesInParts pass after.parts + mode.taken (candidatesInParts pass tree.parts) ≤
      candidatesInParts pass tree.parts := by
  rw [reduceKept_apply, reduceParts_of_isNode notAssignment isNode] at value
  rcases Option.map_eq_some_iff.mp value with ⟨parts, ofParts, rfl⟩
  exact candidatesInParts_of_reduceParts standard single
    (fun part member => inside part.2 (mem_descendants_of_mem_parts member)) ofParts

/-- A pass leaves a node with at least one candidate less for each that it selects. -/
theorem lessens_of_isNode (notAssignment : pass.kind ≠ .assignment) (isNode : tree.IsNode) :
    tree.Lessens pass := by
  induction tree using Skeleton.induct_descendants with
  | node tree ih =>
      have inside : ∀ inner ∈ tree.descendants, inner.Lessens pass := fun inner isInside =>
        ih inner isInside (isNode.of_mem_selfAndDescendants (List.mem_cons_of_mem _ isInside))
      intro mode after value
      cases candidate : pass.isCandidateAt tree with
      | false =>
          have own := isCandidateAt_of_reduce standard isNode candidate value
          rw [reduce_of_not_isCandidateAt pass mode candidate] at value
          have ofParts :=
            candidatesIn_of_reduceKept standard single notAssignment isNode inside value
          simpa [candidatesIn_eq, candidate, own] using ofParts
      | true =>
          rw [reduce_of_isCandidateAt pass mode candidate
            (by simp [pass.isBatchOnly_eq_false single])] at value
          rw [candidatesIn_eq pass tree, candidate, if_pos rfl, Mode.taken_add, Mode.taken_one]
          cases selects : mode.selectsNext with
          | true =>
              simp only [selects, if_true] at value
              have left := candidatesIn_of_reduceSelected candidate inside value
              simp only [if_true]
              omega
          | false =>
              simp only [selects, Bool.false_eq_true, if_false] at value
              have ofParts :=
                candidatesIn_of_reduceKept standard single notAssignment isNode inside value
              rw [candidatesIn_eq pass after]
              simp only [Bool.false_eq_true, if_false]
              split <;> omega

end Lessens

end Skeleton

/-! ## Programs -/

namespace Pass

variable {pass : Pass}

/-- A pass leaves a program with at least one candidate less for each that it selects. -/
theorem probe_apply_le (standard : pass.options = .standard)
    (notAssignment : pass.kind ≠ .assignment) (single : pass.kind ≠ .diagnosticLog)
    (program : Program) (mode : Mode) :
    pass.probe (pass.apply program mode).value + mode.taken (pass.probe program) ≤
      pass.probe program := by
  have lessens : ∀ part ∈ program.skeleton.parts, part.2.Lessens pass := fun part member =>
    Skeleton.lessens_of_isNode standard single notAssignment (program.entry_of_mem_parts member).2
  have value := congrArg Counted.value (pass.reduceParts_skeleton program mode)
  rw [Program.skeleton, shieldsAt_node_none] at value
  have ofParts := Skeleton.candidatesInParts_of_reduceParts standard single lessens value
  simpa [pass.probe_eq_candidatesIn single, Skeleton.candidatesIn_eq, Program.skeleton,
    pass.isCandidateAt_node_none] using ofParts

/-- Diagnostics are only met by a batch. -/
theorem probe_of_diagnosticLog (diagnostic : pass.kind = .diagnosticLog) (program : Program) :
    pass.probe program = 0 := by
  have notBatch : Mode.probe.isBatch = false := rfl
  have idle := Skeleton.reduce_of_isBatchOnly pass (by rw [diagnostic]; rfl) notBatch
    program.skeleton
  rw [pass.apply_skeleton] at idle
  exact congrArg Counted.candidates idle

/--
With the standard options, removing any one candidate leaves a program with fewer
candidates than before, unless it is assignments that are removed.
-/
theorem probe_lt_of_apply_nth (kind : RemovalKind) (notAssignment : kind ≠ .assignment)
    (program : Program) (index : Nat) (inRange : index < probe ⟨kind, .standard⟩ program) :
    probe ⟨kind, .standard⟩ (apply ⟨kind, .standard⟩ program (.nth index)).value <
      probe ⟨kind, .standard⟩ program := by
  by_cases diagnostic : kind = .diagnosticLog
  · rw [probe_of_diagnosticLog diagnostic] at inRange
    cases inRange
  · have standard : (Pass.mk kind .standard).options = .standard := rfl
    have fewer := probe_apply_le standard notAssignment diagnostic program (.nth index)
    rw [Mode.taken, if_pos inRange] at fewer
    omega

/-- A product of a sum. -/
def sumInProduct : Program :=
  ⟨[⟨[], .method ⟨[], "int", "f", [],
    [⟨[], .ret (some (.binary .mul (.paren (.binary .add (.ident "x") (.literal (.int 2))))
      (.literal (.int 3))))⟩]⟩⟩]⟩

/-- Simplifying the sum leaves the product to be simplified, and nothing else. -/
theorem probe_lt_of_apply_nth_sum :
    RemovalKind.binary ≠ .assignment ∧
      1 < probe ⟨.binary, .standard⟩ sumInProduct ∧
        probe ⟨.binary, .standard⟩ (apply ⟨.binary, .standard⟩ sumInProduct (.nth 1)).value <
          probe ⟨.binary, .standard⟩ sumInProduct := by
  have inRange : 1 < probe ⟨.binary, .standard⟩ sumInProduct := by decide
  exact ⟨by decide, inRange,
    probe_lt_of_apply_nth .binary (by decide) sumInProduct 1 inRange⟩

end Pass

end Whittle

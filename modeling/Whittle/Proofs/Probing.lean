import Whittle.Proofs.SkeletonAgreement

/-!
# Probing

A probe counts the candidates and selects none.  On skeletons it leaves
everything as it is but for the parts that the kind sweeps out of lists, and it
records a change just if there are any.  Asking for a candidate past the last one
is the same, and so is asking for any single one where a kind works in batches only.
-/

namespace Whittle

namespace Skeleton

variable (pass : Pass)

mutual

/-- The skeleton without the parts that the kind sweeps out of lists. -/
def swept : Skeleton → Skeleton
  | .node label parts => .node label (sweptParts parts)

/-- The parts that are not swept, each without what is swept inside it. -/
def sweptParts : List (Slot × Skeleton) → List (Slot × Skeleton)
  | [] => []
  | (slot, tree) :: rest =>
      if pass.sweepsAt slot tree then sweptParts rest
      else (slot, tree.swept) :: sweptParts rest

end

/-- The number of candidates in a list of parts. -/
def candidatesInParts (parts : List (Slot × Skeleton)) : Nat :=
  (inParts parts).countP pass.isCandidateAt

/-- The number of candidates in a skeleton. -/
def candidatesIn (tree : Skeleton) : Nat :=
  tree.selfAndDescendants.countP pass.isCandidateAt

@[simp]
theorem sweptParts_append (first second : List (Slot × Skeleton)) :
    sweptParts pass (first ++ second) = sweptParts pass first ++ sweptParts pass second := by
  induction first with
  | nil => rfl
  | cons part rest ih =>
      rcases part with ⟨slot, tree⟩
      simp only [List.cons_append, sweptParts, ih]
      split <;> rfl

theorem candidatesIn_eq (tree : Skeleton) :
    tree.candidatesIn pass =
      (if pass.isCandidateAt tree then 1 else 0) + candidatesInParts pass tree.parts := by
  cases tree with
  | node label parts =>
      simp [candidatesIn, candidatesInParts, selfAndDescendants, descendants, List.countP_cons,
        Nat.add_comm]

@[simp]
theorem candidatesInParts_nil : candidatesInParts pass [] = 0 :=
  rfl

@[simp]
theorem candidatesInParts_cons (slot : Slot) (tree : Skeleton) (rest : List (Slot × Skeleton)) :
    candidatesInParts pass ((slot, tree) :: rest) =
      tree.candidatesIn pass + candidatesInParts pass rest := by
  simp [candidatesInParts, candidatesIn, inParts, selfAndDescendants, List.countP_cons,
    Nat.add_right_comm]

@[simp]
theorem candidatesInParts_append (first second : List (Slot × Skeleton)) :
    candidatesInParts pass (first ++ second) =
      candidatesInParts pass first + candidatesInParts pass second := by
  simp [candidatesInParts]

/-- The sum of a measure over a list of parts. -/
def total (measure : Skeleton → Nat) : List (Slot × Skeleton) → Nat
  | [] => 0
  | (_, tree) :: rest => measure tree + total measure rest

theorem candidatesInParts_eq_total (parts : List (Slot × Skeleton)) :
    candidatesInParts pass parts = total (candidatesIn pass) parts := by
  induction parts with
  | nil => rfl
  | cons part rest ih =>
      rcases part with ⟨slot, tree⟩
      simp [total, ih]

/-- What is swept is an empty block, and no candidate. -/
theorem candidatesIn_of_sweepsAt {slot : Slot} {tree : Skeleton}
    (sweeps : pass.sweepsAt slot tree = true) : tree.candidatesIn pass = 0 := by
  unfold Pass.sweepsAt at sweeps
  split at sweeps
  · next kind =>
      have read : (node (some .block) []).read? = some (.stmt ⟨[], .block []⟩) := rfl
      have noCandidate : pass.isCandidateAt (node (some .block) []) = false := by
        simp [Pass.isCandidateAt, read, Pass.isCandidate, Pass.matchesNode, Pass.matchesStmt, kind,
          StmtForm.isEmptyBlock]
      simp [candidatesIn_eq, noCandidate]
  · cases sweeps

/-- Nothing is swept by any kind but that of blocks. -/
theorem sweepsAt_eq_false (notBlock : pass.kind ≠ .block) (slot : Slot) (tree : Skeleton) :
    pass.sweepsAt slot tree = false := by
  unfold Pass.sweepsAt
  split
  · next kind => exact (notBlock kind).elim
  · rfl

theorem swept_of_ne_block (notBlock : pass.kind ≠ .block) (tree : Skeleton) :
    tree.swept pass = tree := by
  induction tree using Skeleton.induct with
  | node label parts ih =>
      have ofParts : sweptParts pass parts = parts := by
        induction parts with
        | nil => rfl
        | cons part rest ofRest =>
            rcases part with ⟨slot, tree⟩
            have head := ih (slot, tree) (by simp)
            have tail := ofRest fun part member => ih part (List.mem_cons_of_mem _ member)
            simp only at head
            simp [sweptParts, sweepsAt_eq_false pass notBlock, head, tail]
      rw [swept, ofParts]

theorem sweptParts_of_ne_block (notBlock : pass.kind ≠ .block) (parts : List (Slot × Skeleton)) :
    sweptParts pass parts = parts := by
  have whole := swept_of_ne_block pass notBlock (node none parts)
  rw [swept, node.injEq] at whole
  exact whole.2

/-! ## A probe leaves everything but what is swept -/

/-- A part that is rebuilt to something takes the slot. -/
@[simp]
theorem fill_some (slot : Slot) (shielded : Bool) (before after : Skeleton) :
    slot.fill shielded before (some after) = some [(slot, after)] :=
  rfl

/-- What is left of parts that are each rebuilt without a gap. -/
theorem reduceParts_value_of_forall (shielded : Bool) (mode : Mode)
    (parts : List (Slot × Skeleton))
    (stays : ∀ count, mode.after count = mode)
    (alike : ∀ part ∈ parts, (part.2.reduce pass mode).value = some (part.2.swept pass)) :
    (reduceParts pass shielded parts mode).value = some (sweptParts pass parts) := by
  induction parts with
  | nil => simp [sweptParts]
  | cons part rest ih =>
      rcases part with ⟨slot, tree⟩
      have ofRest := ih fun part member => alike part (List.mem_cons_of_mem _ member)
      cases sweeps : pass.sweepsAt slot tree with
      | true => simp [reduceParts_cons, sweeps, ofRest, sweptParts, stays]
      | false =>
          have ofTree := alike (slot, tree) (by simp)
          rw [reduceParts_cons_apply pass shielded rest mode sweeps]
          simp only at ofTree
          simp [ofTree, stays, ofRest, sweptParts, sweeps]

/-- A probe gives back what is not swept. -/
theorem reduce_probe_value (tree : Skeleton) :
    (tree.reduce pass .probe).value = some (tree.swept pass) := by
  induction tree using Skeleton.induct with
  | node label parts ih =>
      have kept : ((node label parts).reduceKept pass .probe).value =
          some ((node label parts).swept pass) := by
        have ofParts := reduceParts_value_of_forall pass (pass.shieldsAt (node label parts))
          .probe parts (fun _ => rfl) ih
        rw [reduceKept_apply]
        simp [ofParts, swept]
      simp only [reduce_eq, Pass.choose]
      split <;> exact kept

/-- The candidates that are met in a list of parts are those met in each of them. -/
theorem reduceParts_candidates_of_forall (shielded : Bool) (mode : Mode)
    (parts : List (Slot × Skeleton)) (count : Skeleton → Nat)
    (stays : ∀ met, mode.after met = mode)
    (swept : ∀ slot tree, pass.sweepsAt slot tree = true → count tree = 0)
    (alike : ∀ part ∈ parts, (part.2.reduce pass mode).candidates = count part.2) :
    (reduceParts pass shielded parts mode).candidates = total count parts := by
  induction parts with
  | nil => simp [total]
  | cons part rest ih =>
      rcases part with ⟨slot, tree⟩
      have ofRest := ih fun part member => alike part (List.mem_cons_of_mem _ member)
      cases sweeps : pass.sweepsAt slot tree with
      | true =>
          simp [reduceParts_cons, sweeps, Survey.change, stays, ofRest, swept slot tree sweeps,
            total]
      | false =>
          have ofTree := alike (slot, tree) (by simp)
          rw [reduceParts_cons_apply pass shielded rest mode sweeps]
          simp only at ofTree
          simp [ofTree, stays, ofRest, total]

/-- A probe meets every candidate. -/
theorem reduce_probe_candidates (single : pass.kind.isBatchOnly = false) (tree : Skeleton) :
    (tree.reduce pass .probe).candidates = tree.candidatesIn pass := by
  induction tree using Skeleton.induct with
  | node label parts ih =>
      have kept : ((node label parts).reduceKept pass .probe).candidates =
          candidatesInParts pass parts := by
        rw [reduceKept_apply, candidatesInParts_eq_total]
        exact reduceParts_candidates_of_forall pass _ .probe parts _ (fun _ => rfl)
          (fun _ _ => candidatesIn_of_sweepsAt pass) ih
      cases candidate : pass.isCandidateAt (node label parts) with
      | false =>
          rw [reduce_of_not_isCandidateAt pass _ candidate]
          simp [kept, candidatesIn_eq, candidate]
      | true =>
          rw [reduce_of_isCandidateAt pass _ candidate (by simp [single])]
          simp [Mode.selectsNext, Mode.after, kept, candidatesIn_eq, candidate]

/-! ## What a probe records -/

/-- Whether a part of the node is swept out of the list in which it stands. -/
def sweepsPart (tree : Skeleton) : Bool :=
  tree.parts.any fun part => pass.sweepsAt part.1 part.2

theorem reduceParts_probe_changed_of_forall (shielded : Bool) (parts : List (Slot × Skeleton))
    (alike : ∀ part ∈ parts,
      (part.2.reduce pass .probe).changed = part.2.selfAndDescendants.any (sweepsPart pass)) :
    (reduceParts pass shielded parts .probe).changed =
      ((parts.any fun part => pass.sweepsAt part.1 part.2) ||
        (inParts parts).any (sweepsPart pass)) := by
  induction parts with
  | nil => simp [inParts]
  | cons part rest ih =>
      rcases part with ⟨slot, tree⟩
      rcases List.forall_mem_cons.mp alike with ⟨ofTree, ofOthers⟩
      have ofRest := ih ofOthers
      cases sweeps : pass.sweepsAt slot tree with
      | true => simp [reduceParts_cons, sweeps, Survey.change]
      | false =>
          rw [reduceParts_cons_apply pass shielded rest .probe sweeps]
          simp only [selfAndDescendants, List.any_cons] at ofTree
          simp [ofTree, ofRest, Mode.after, sweeps, inParts, Bool.or_left_comm, Bool.or_assoc]

/-- A probe records a change just if something is swept. -/
theorem reduce_probe_changed (tree : Skeleton) :
    (tree.reduce pass .probe).changed = tree.selfAndDescendants.any (sweepsPart pass) := by
  induction tree using Skeleton.induct with
  | node label parts ih =>
      have kept : ((node label parts).reduceKept pass .probe).changed =
          (node label parts).selfAndDescendants.any (sweepsPart pass) := by
        rw [reduceKept_apply]
        exact reduceParts_probe_changed_of_forall pass _ parts ih
      simp only [reduce_eq, Pass.choose]
      split <;> exact kept

/-! ## Asking past the last candidate -/

/-- Parts in which an index is past the last candidate are left as by a probe. -/
theorem reduceParts_nth_of_le (single : pass.kind.isBatchOnly = false) (shielded : Bool)
    (parts : List (Slot × Skeleton))
    (alike : ∀ part ∈ parts, ∀ index, part.2.candidatesIn pass ≤ index →
      part.2.reduce pass (.nth index) = part.2.reduce pass .probe)
    (index : Nat) (past : candidatesInParts pass parts ≤ index) :
    reduceParts pass shielded parts (.nth index) = reduceParts pass shielded parts .probe := by
  induction parts generalizing index with
  | nil => simp
  | cons part rest ih =>
      rcases part with ⟨slot, tree⟩
      have ofRest := ih fun part member => alike part (List.mem_cons_of_mem _ member)
      rw [candidatesInParts_cons] at past
      cases sweeps : pass.sweepsAt slot tree with
      | true => simp [reduceParts_cons, sweeps, Survey.change, Mode.after, ofRest index (by omega)]
      | false =>
          have ofTree := alike (slot, tree) (by simp) index (by simp only; omega)
          simp only at ofTree
          have met := reduce_probe_candidates pass single tree
          have left : (Mode.nth index).after (tree.candidatesIn pass) =
              .nth (index - tree.candidatesIn pass) := by
            rw [Mode.after, if_neg (by omega)]
          rw [reduceParts_cons_apply pass shielded rest _ sweeps,
            reduceParts_cons_apply pass shielded rest _ sweeps]
          simp only [ofTree, met, left, ofRest (index - tree.candidatesIn pass) (by omega)]
          rfl

/-- An index past the last candidate selects nothing. -/
theorem reduce_nth_of_le (single : pass.kind.isBatchOnly = false) (tree : Skeleton) :
    ∀ index, tree.candidatesIn pass ≤ index →
      tree.reduce pass (.nth index) = tree.reduce pass .probe := by
  induction tree using Skeleton.induct with
  | node label parts ih =>
      intro index past
      rw [candidatesIn_eq] at past
      have kept (index : Nat) (past : candidatesInParts pass parts ≤ index) :
          (node label parts).reduceKept pass (.nth index) =
            (node label parts).reduceKept pass .probe := by
        rw [reduceKept_apply, reduceKept_apply]
        simp only [parts_node]
        rw [reduceParts_nth_of_le pass single _ parts ih index past]
      cases candidate : pass.isCandidateAt (node label parts) with
      | false =>
          rw [reduce_of_not_isCandidateAt pass _ candidate,
            reduce_of_not_isCandidateAt pass _ candidate]
          exact kept index (by simpa [candidate] using past)
      | true =>
          simp only [candidate, if_true, parts_node] at past
          obtain ⟨before, rfl⟩ : ∃ before, index = before + 1 := ⟨index - 1, by omega⟩
          rw [reduce_of_isCandidateAt pass _ candidate (by simp [single]),
            reduce_of_isCandidateAt pass _ candidate (by simp [single])]
          simp [Mode.selectsNext, Mode.after, kept before (by omega)]

/-! ## Asking for one of those that are only deleted together -/

theorem reduceParts_of_forall_idle (notBlock : pass.kind ≠ .block) (shielded : Bool) (mode : Mode)
    (parts : List (Slot × Skeleton))
    (idle : ∀ part ∈ parts, part.2.reduce pass mode = ⟨some part.2, 0, false⟩) :
    reduceParts pass shielded parts mode = ⟨some parts, 0, false⟩ := by
  induction parts with
  | nil => simp
  | cons part rest ih =>
      rcases part with ⟨slot, tree⟩
      rcases List.forall_mem_cons.mp idle with ⟨ofTree, ofOthers⟩
      simp only at ofTree
      rw [reduceParts_cons_apply pass shielded rest mode (sweepsAt_eq_false pass notBlock slot tree)]
      simp [ofTree, ih ofOthers]

/-- A kind that is only about all candidates at once does nothing in the other modes. -/
theorem reduce_of_isBatchOnly (batchOnly : pass.kind.isBatchOnly = true) {mode : Mode}
    (notBatch : mode.isBatch = false) (tree : Skeleton) :
    tree.reduce pass mode = ⟨some tree, 0, false⟩ := by
  have notBlock : pass.kind ≠ .block := by
    intro block
    simp [block, RemovalKind.isBatchOnly] at batchOnly
  induction tree using Skeleton.induct with
  | node label parts ih =>
      have idle := reduceParts_of_forall_idle pass notBlock (pass.shieldsAt (node label parts)) mode
        parts ih
      rw [reduce_eq, Pass.choose, batchOnly, notBatch]
      simp [reduceKept_apply, idle]

/-! ## Lists of parts -/

theorem reduceParts_probe_value (shielded : Bool) (parts : List (Slot × Skeleton)) :
    (reduceParts pass shielded parts .probe).value = some (sweptParts pass parts) :=
  reduceParts_value_of_forall pass shielded .probe parts (fun _ => rfl)
    fun part _ => reduce_probe_value pass part.2

theorem reduceParts_probe_candidates (single : pass.kind.isBatchOnly = false) (shielded : Bool)
    (parts : List (Slot × Skeleton)) :
    (reduceParts pass shielded parts .probe).candidates = candidatesInParts pass parts :=
  (reduceParts_candidates_of_forall pass shielded .probe parts _ (fun _ => rfl)
    (fun _ _ => candidatesIn_of_sweepsAt pass)
    fun part _ => reduce_probe_candidates pass single part.2).trans
      (candidatesInParts_eq_total pass parts).symm

theorem reduceParts_nth_past (single : pass.kind.isBatchOnly = false) (shielded : Bool)
    (parts : List (Slot × Skeleton)) {index : Nat}
    (past : candidatesInParts pass parts ≤ index) :
    reduceParts pass shielded parts (.nth index) = reduceParts pass shielded parts .probe :=
  reduceParts_nth_of_le pass single shielded parts
    (fun part _ => reduce_nth_of_le pass single part.2) index past

end Skeleton

end Whittle

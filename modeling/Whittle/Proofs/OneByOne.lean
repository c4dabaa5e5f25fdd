import Mathlib.Logic.Function.Iterate
import Whittle.Proofs.FixedPoint
import Whittle.Proofs.Weight

/-!
# One by one

Removing the first candidate again and again comes to the same as removing all
of them in one batch, but for blocks, assignments and diagnostics.

It is enough to look at one step.  A batch after the step leaves what it would
have left without it, and it has fewer candidates to meet.  In a node this is
said of its parts: the first candidate is in one of them, the parts before it
are settled and those after it are only probed.  A gap that the step leaves is
the one that the batch would leave.
-/

namespace Whittle

namespace Skeleton

variable {pass : Pass}

/-! ## Steps towards a batch -/

/--
A step towards a batch.  What the batch leaves after the step is what it leaves
without it, and it meets fewer candidates.  Where the kind replaces what it
selects, the step leaves something and takes just one candidate.
-/
structure Advances {α : Type} (pass : Pass) (batch : α → Counted (Option α)) (before : α)
    (step : Option α) : Prop where
  same : (step.bind fun after => (batch after).value) = (batch before).value
  fewer : (step.elim 0 fun after => (batch after).candidates) < (batch before).candidates
  exact : pass.kind.deletes = false →
    ∃ after, step = some after ∧ (batch after).candidates + 1 = (batch before).candidates

/-- A step is one, too, for what is put around all that it concerns. -/
theorem Advances.map {α β : Type} {batch : α → Counted (Option α)} {before : α}
    {step : Option α} (advances : Advances pass batch before step)
    (batch' : β → Counted (Option β)) (wrap : α → β)
    (alike : ∀ tree, tree = before ∨ step = some tree →
      (batch' (wrap tree)).value = (batch tree).value.map wrap ∧
        (batch' (wrap tree)).candidates = (batch tree).candidates) :
    Advances pass batch' (wrap before) (step.map wrap) := by
  rcases advances with ⟨same, fewer, exact⟩
  rcases alike before (.inl rfl) with ⟨valueBefore, metBefore⟩
  cases step with
  | none =>
      constructor
      case same =>
        rw [valueBefore, ← same]
        rfl
      case fewer =>
        rw [metBefore]
        exact fewer
      case exact =>
        intro replaces
        rcases exact replaces with ⟨_, isNone, _⟩
        cases isNone
  | some after =>
      rcases alike after (.inr rfl) with ⟨valueAfter, metAfter⟩
      simp only [Option.bind_some, Option.elim_some] at same fewer
      constructor
      case same => simp [valueBefore, valueAfter, same]
      case fewer => simpa [metBefore, metAfter] using fewer
      case exact =>
        intro replaces
        rcases exact replaces with ⟨other, isAfter, met⟩
        cases isAfter
        exact ⟨wrap after, rfl, by rw [metBefore, metAfter, met]⟩

/-! ## Selected nodes -/

/-- A kind that does not delete has something to put in the place of what it selects. -/
theorem exists_replacement (replaces : pass.kind.deletes = false) (notBlock : pass.kind ≠ .block)
    {tree : Skeleton} (candidate : pass.isCandidateAt tree = true) :
    ∃ after, pass.replacement tree = some after := by
  cases unwraps : pass.kind.revisits with
  | true =>
      rcases exists_uncovered_of_isCandidateAt pass unwraps candidate with ⟨inner, _, uncovered, _⟩
      exact ⟨inner, by simpa [Pass.revisited?, unwraps] using uncovered⟩
  | false =>
      have binary : pass.kind = .binary := by
        cases kind : pass.kind <;>
          simp_all [RemovalKind.deletes, RemovalKind.revisits]
      rcases pass.exists_label_of_isCandidateAt candidate (by simp [binary]) with
        ⟨label, isLabel, removed⟩
      obtain ⟨op, rfl⟩ : ∃ op, label = .binary op := by
        cases label <;> simp_all [Label.removedBy?]
      rcases tree with ⟨_, parts⟩
      cases isLabel
      exact ⟨op.canonical.skeleton, by simp [Pass.replacement, binary]⟩

/-- A batch goes on with what takes the place of a selected node. -/
theorem reduceSelected_all (notBlock : pass.kind ≠ .block) {tree : Skeleton}
    (candidate : pass.isCandidateAt tree = true) :
    (tree.reduceSelected pass .all).value =
        ((pass.replacement tree).bind fun after => (after.reduce pass .all).value) ∧
      (tree.reduceSelected pass .all).candidates =
        (pass.replacement tree).elim 0 fun after => (after.reduce pass .all).candidates := by
  cases unwraps : pass.kind.revisits with
  | true =>
      rcases exists_uncovered_of_isCandidateAt pass unwraps candidate with ⟨inner, _, uncovered, _⟩
      have replaced : pass.replacement tree = some inner := by
        simpa [Pass.revisited?, unwraps] using uncovered
      simp [reduceSelected, uncovered, replaced]
  | false =>
      cases replaced : pass.replacement tree with
      | none => simp [reduceSelected, Pass.revisited?, unwraps, replaced]
      | some after =>
          have settled := settled_of_replacement unwraps replaced
          simp [reduceSelected, Pass.revisited?, unwraps, replaced, settled.reduce_value,
            settled.reduce_all_candidates, swept_of_ne_block pass notBlock]

/-- Selecting a candidate is a step. -/
theorem advances_of_isCandidateAt (single : pass.kind ≠ .diagnosticLog)
    (notBlock : pass.kind ≠ .block) {tree : Skeleton}
    (candidate : pass.isCandidateAt tree = true) :
    Advances pass (fun tree => tree.reduce pass .all) tree
      (tree.reduce pass (.nth 0)).value := by
  have notBatchOnly := pass.isBatchOnly_eq_false single
  rcases reduceSelected_probe pass single candidate with ⟨selected, _⟩
  rcases reduceSelected_all notBlock candidate with ⟨value, met⟩
  have step : (tree.reduce pass (.nth 0)).value = pass.replacement tree := by
    rw [reduce_of_isCandidateAt pass _ candidate (by simp [notBatchOnly])]
    simp [Mode.selectsNext, Mode.after, selected]
  have batch : (tree.reduce pass .all).value = (tree.reduceSelected pass .all).value ∧
      (tree.reduce pass .all).candidates = 1 + (tree.reduceSelected pass .all).candidates := by
    rw [reduce_of_isCandidateAt pass _ candidate (by simp [notBatchOnly])]
    simp [Mode.selectsNext]
  rw [step]
  constructor
  case same => rw [batch.1, value]
  case fewer =>
    rw [batch.2, met]
    omega
  case exact =>
    intro replaces
    rcases exists_replacement replaces notBlock candidate with ⟨after, replaced⟩
    refine ⟨after, replaced, ?_⟩
    rw [batch.2, met, replaced, Option.elim_some, Nat.add_comm]

/-! ## Parts -/

/-- What a batch makes of the gap that a step leaves is what it makes of the part itself. -/
theorem reduceParts_fill (standard : pass.options = .standard) (notBlock : pass.kind ≠ .block)
    (slot : Slot) {tree : Skeleton} {step : Option Skeleton}
    (same : (step.bind fun after => (after.reduce pass .all).value) =
      (tree.reduce pass .all).value) :
    ((slot.fill false tree step).bind fun front => (reduceParts pass false front .all).value) =
        slot.fill false tree (tree.reduce pass .all).value ∧
      ((slot.fill false tree step).elim 0 fun front =>
          (reduceParts pass false front .all).candidates) ≤
        step.elim 0 fun after => (after.reduce pass .all).candidates := by
  have single (after : Skeleton) : reduceParts pass false [(slot, after)] .all =
      ⟨slot.fill false after (after.reduce pass .all).value, (after.reduce pass .all).candidates,
        (after.reduce pass .all).changed⟩ := by
    have kept := sweepsAt_eq_false pass notBlock slot after
    rw [reduceParts_cons_apply pass false [] .all kept]
    cases filled : slot.fill false after (after.reduce pass .all).value <;> simp [filled]
  rw [← same]
  cases step with
  | some after =>
      simp only [fill_some, Option.bind_some, Option.elim_some, single]
      refine ⟨?_, Nat.le_refl _⟩
      cases (after.reduce pass .all).value with
      | some _ => rfl
      | none => simp [Slot.fill]
  | none =>
      cases gap : slot.gap with
      | closes => simp [Slot.fill, gap]
      | emptied =>
          have settled := settled_nothing standard
          simp [Slot.fill, gap, single, settled.reduce_value, settled.reduce_all_candidates,
            swept_of_ne_block pass notBlock]
      | spreads => simp [Slot.fill, gap]

/-- A settled part is passed over in every mode. -/
theorem reduceParts_cons_of_settled (notBlock : pass.kind ≠ .block) (slot : Slot)
    {tree : Skeleton} (settled : tree.Settled pass) (rest : List (Slot × Skeleton)) (mode : Mode) :
    (reduceParts pass false ((slot, tree) :: rest) mode).value =
        (reduceParts pass false rest mode).value.map ((slot, tree) :: ·) ∧
      (reduceParts pass false ((slot, tree) :: rest) mode).candidates =
        (reduceParts pass false rest mode).candidates := by
  have kept := sweepsAt_eq_false pass notBlock slot tree
  rcases settled.reduce_value_and_candidates mode with ⟨value, met⟩
  rw [reduceParts_cons_apply pass false rest mode kept]
  simp only [value, met, swept_of_ne_block pass notBlock, fill_some, Mode.after_zero]
  cases (reduceParts pass false rest mode).value <;> simp

theorem candidates_nth_zero_pos (single : pass.kind ≠ .diagnosticLog) {tree : Skeleton}
    (present : 0 < tree.candidatesIn pass) : 0 < (tree.reduce pass (.nth 0)).candidates := by
  rw [← length_candidateSites] at present
  exact (reduce_nth_of_site pass single tree 0 _ (List.getElem?_eq_getElem present)).reached

/-- Once the first candidate is removed, the parts after it are left as they are. -/
theorem reduceParts_nth_zero (single : pass.kind ≠ .diagnosticLog) (notBlock : pass.kind ≠ .block)
    (slot : Slot) {tree : Skeleton} (present : 0 < tree.candidatesIn pass)
    (rest : List (Slot × Skeleton)) :
    (reduceParts pass false ((slot, tree) :: rest) (.nth 0)).value =
      (slot.fill false tree (tree.reduce pass (.nth 0)).value).map (· ++ rest) := by
  have kept := sweepsAt_eq_false pass notBlock slot tree
  have met := candidates_nth_zero_pos single present
  have done : (Mode.nth 0).after (tree.reduce pass (.nth 0)).candidates = .probe := by
    rw [Mode.after, if_pos met]
  rw [reduceParts_cons_apply pass false rest _ kept]
  simp only [done, reduceParts_probe_value, sweptParts_of_ne_block pass notBlock]
  cases slot.fill false tree (tree.reduce pass (.nth 0)).value <;> simp

/-! ## Nodes that are not selected -/

/-- What is left of a node is a node. -/
theorem IsNode.of_reduce {tree after : Skeleton} (isNode : tree.IsNode) {mode : Mode}
    (value : (tree.reduce pass mode).value = some after) : after.IsNode := by
  rcases isNode with ⟨node, rfl⟩
  rw [node.reduce_skeleton, Survey.map_apply] at value
  rcases Option.map_eq_some_iff.mp value with ⟨left, _, rfl⟩
  exact ⟨left, rfl⟩

/-- Where operands are settled it makes no difference whether the node is shielded. -/
theorem reduceParts_of_operands_settled (shielded : Bool) (parts : List (Slot × Skeleton))
    (held : ∀ part ∈ parts, part.1 = .operand → part.2.Settled pass) (mode : Mode) :
    reduceParts pass shielded parts mode = reduceParts pass false parts mode := by
  induction parts generalizing mode with
  | nil => simp
  | cons part rest ih =>
      rcases part with ⟨slot, tree⟩
      rcases List.forall_mem_cons.mp held with ⟨ofTree, ofOthers⟩
      have ofRest := ih ofOthers
      cases sweeps : pass.sweepsAt slot tree with
      | true => simp [reduceParts_cons, sweeps, ofRest]
      | false =>
          have filled : slot.fill shielded tree (tree.reduce pass mode).value =
              slot.fill false tree (tree.reduce pass mode).value := by
            cases value : (tree.reduce pass mode).value with
            | some after => rfl
            | none =>
                cases slot with
                | operand =>
                    have settled : tree.Settled pass := ofTree rfl
                    rw [settled.reduce_value] at value
                    cases value
                | _ => rfl
          rw [reduceParts_cons_apply pass shielded rest mode sweeps,
            reduceParts_cons_apply pass false rest mode sweeps]
          simp only [filled, ofRest]

/-- The node is not selected, and a pass treats its parts as if it was not shielded. -/
structure Plain (pass : Pass) (tree : Skeleton) : Prop where
  notCandidate : pass.isCandidateAt tree = false
  unshielded : ∀ mode, reduceParts pass (pass.shieldsAt tree) tree.parts mode =
    reduceParts pass false tree.parts mode

theorem Plain.reduce {tree : Skeleton} (plain : tree.Plain pass) (mode : Mode) :
    (tree.reduce pass mode).value =
        (reduceParts pass false tree.parts mode).value.map (node tree.label?) ∧
      (tree.reduce pass mode).candidates = (reduceParts pass false tree.parts mode).candidates := by
  rw [reduce_of_not_isCandidateAt pass mode plain.notCandidate, reduceKept_apply]
  simp [plain.unshielded]

/-- Unless it is assignments that are removed, a pass makes no use of shields. -/
theorem reduceParts_of_isNode (notAssignment : pass.kind ≠ .assignment) {tree : Skeleton}
    (isNode : tree.IsNode) (mode : Mode) :
    reduceParts pass (pass.shieldsAt tree) tree.parts mode =
      reduceParts pass false tree.parts mode := by
  cases shielded : pass.shieldsAt tree with
  | false => rfl
  | true =>
      have leaves := pass.matchesExpr_of_guardsMarkers (guards_of_shieldsAt shielded) notAssignment
      refine reduceParts_of_operands_settled true tree.parts ?_ mode
      intro part member isOperand
      rcases part with ⟨slot, operand⟩
      obtain rfl : slot = .operand := isOperand
      rcases isNode with ⟨node, rfl⟩
      rcases node.exists_required_of_operand member with ⟨expr, _, rfl⟩
      exact Pass.settled_of_matchesExpr leaves expr

/-- Every node that is no candidate is plain, unless it is assignments that are removed. -/
theorem plain_of_isNode (notAssignment : pass.kind ≠ .assignment) {tree : Skeleton}
    (isNode : tree.IsNode) (notCandidate : pass.isCandidateAt tree = false) :
    tree.Plain pass :=
  ⟨notCandidate, reduceParts_of_isNode notAssignment isNode⟩

/-- A step in the parts of a plain node is one in the node. -/
theorem advances_of_plain {tree : Skeleton} (plain : tree.Plain pass)
    (still : ∀ after, (tree.reduce pass (.nth 0)).value = some after → after.Plain pass)
    (ofParts : Advances pass (fun parts => reduceParts pass false parts .all) tree.parts
      (reduceParts pass false tree.parts (.nth 0)).value) :
    Advances pass (fun tree => tree.reduce pass .all) tree
      (tree.reduce pass (.nth 0)).value := by
  rcases tree with ⟨label, parts⟩
  rw [(plain.reduce (.nth 0)).1] at still ⊢
  refine ofParts.map _ (node label) ?_
  rintro left (rfl | isLeft)
  · exact plain.reduce .all
  · simp only [parts_node] at isLeft
    exact (still (node label left) (by simp [isLeft])).reduce .all

/-! ## Steps in a node -/

section Steps

variable (standard : pass.options = .standard) (single : pass.kind ≠ .diagnosticLog)
  (notBlock : pass.kind ≠ .block)

include standard single notBlock

/-- A step in the first part is one for all of them. -/
theorem advances_first (slot : Slot) {tree : Skeleton} (present : 0 < tree.candidatesIn pass)
    (rest : List (Slot × Skeleton))
    (advances : Advances pass (fun tree => tree.reduce pass .all) tree
      (tree.reduce pass (.nth 0)).value) :
    Advances pass (fun parts => reduceParts pass false parts .all) ((slot, tree) :: rest)
      (reduceParts pass false ((slot, tree) :: rest) (.nth 0)).value := by
  have kept := sweepsAt_eq_false pass notBlock slot tree
  rcases advances with ⟨same, fewer, exact⟩
  rcases reduceParts_fill standard notBlock slot same with ⟨filled, met⟩
  have before := reduceParts_cons_apply pass false rest .all kept
  have joined (front : List (Slot × Skeleton)) :=
    congrFun (reduceParts_append pass false front rest) .all
  rw [reduceParts_nth_zero single notBlock slot present]
  constructor
  case same =>
    simp only [before, ← filled]
    cases slot.fill false tree (tree.reduce pass (.nth 0)).value with
    | none => rfl
    | some front => simp [joined]
  case fewer =>
    simp only [before, Mode.after_all]
    cases left : slot.fill false tree (tree.reduce pass (.nth 0)).value with
    | none =>
        simp only [Option.map_none, Option.elim_none]
        omega
    | some front =>
        rw [left, Option.elim_some] at met
        simp only [Option.map_some, Option.elim_some, joined, Survey.bind_apply,
          Survey.pure_apply, Mode.after_all]
        omega
  case exact =>
    intro replaces
    rcases exact replaces with ⟨after, isAfter, metAfter⟩
    refine ⟨(slot, after) :: rest, by simp [isAfter], ?_⟩
    have keptAfter := sweepsAt_eq_false pass notBlock slot after
    rw [before, reduceParts_cons_apply pass false rest .all keptAfter]
    simp only [Mode.after_all]
    omega

/-- The first candidate in a list of parts is removed in one of them, and that is a step. -/
theorem advances_parts (parts : List (Slot × Skeleton))
    (alike : ∀ part ∈ parts, 0 < part.2.candidatesIn pass →
      Advances pass (fun tree => tree.reduce pass .all) part.2
        (part.2.reduce pass (.nth 0)).value)
    (present : 0 < candidatesInParts pass parts) :
    Advances pass (fun parts => reduceParts pass false parts .all) parts
      (reduceParts pass false parts (.nth 0)).value := by
  induction parts with
  | nil => simp at present
  | cons part rest ih =>
      rcases part with ⟨slot, tree⟩
      rw [candidatesInParts_cons] at present
      rcases List.forall_mem_cons.mp alike with ⟨ofTree, ofOthers⟩
      -- Up to the first candidate all parts are settled, so the step is in the rest.
      by_cases inRest : tree.candidatesIn pass = 0
      · have settled := settled_iff_candidatesIn.mpr inRest
        have ofRest := ih ofOthers (by omega)
        rw [(reduceParts_cons_of_settled notBlock slot settled rest (.nth 0)).1]
        exact ofRest.map _ ((slot, tree) :: ·) fun rest _ =>
          reduceParts_cons_of_settled notBlock slot settled rest .all
      · have first := Nat.pos_of_ne_zero inRest
        exact advances_first standard single notBlock slot first rest (ofTree first)

/-- Removing the first candidate of a node is a step. -/
theorem advances_of_isNode (notAssignment : pass.kind ≠ .assignment) {tree : Skeleton}
    (isNode : tree.IsNode) (present : 0 < tree.candidatesIn pass) :
    Advances pass (fun tree => tree.reduce pass .all) tree
      (tree.reduce pass (.nth 0)).value := by
  induction tree using Skeleton.induct with
  | node label parts ih =>
      cases candidate : pass.isCandidateAt (node label parts) with
      | true => exact advances_of_isCandidateAt single notBlock candidate
      | false =>
          rw [candidatesIn_eq, candidate] at present
          have plain := plain_of_isNode notAssignment isNode candidate
          refine advances_of_plain plain ?_ ?_
          · intro after value
            exact plain_of_isNode notAssignment (isNode.of_reduce value)
              (isCandidateAt_of_reduce standard isNode candidate value)
          · refine advances_parts standard single notBlock parts ?_ (by simpa using present)
            intro part member
            exact ih part member (isNode.of_mem_parts member)

end Steps

end Skeleton

/-! ## Programs -/

namespace Pass

variable {pass : Pass} {program : Program}

/-- The program without its first candidate. -/
def removeFirst (pass : Pass) (program : Program) : Program :=
  (pass.apply program (.nth 0)).value

@[simp]
theorem shieldsAt_node_none (parts : List (Slot × Skeleton)) :
    pass.shieldsAt (.node none parts) = false := by
  cases readable : Skeleton.readParts? parts <;> simp [shieldsAt, Skeleton.read?, readable]

theorem plain_skeleton (program : Program) : program.skeleton.Plain pass := by
  refine ⟨pass.isCandidateAt_node_none _, fun mode => ?_⟩
  rw [Program.skeleton, shieldsAt_node_none]

section Steps

variable (standard : pass.options = .standard) (single : pass.kind ≠ .diagnosticLog)
  (notBlock : pass.kind ≠ .block) (notAssignment : pass.kind ≠ .assignment)
  (present : 0 < pass.probe program)

include standard single notBlock notAssignment present

theorem advances_skeleton :
    Skeleton.Advances pass (fun tree => tree.reduce pass .all) program.skeleton
      (some (pass.removeFirst program).skeleton) := by
  have step : (program.skeleton.reduce pass (.nth 0)).value =
      some (pass.removeFirst program).skeleton := by
    rw [pass.apply_skeleton]
    rfl
  rw [← step]
  refine Skeleton.advances_of_plain (plain_skeleton program) ?_ ?_
  · intro after isAfter
    rw [step] at isAfter
    cases isAfter
    exact plain_skeleton _
  · refine Skeleton.advances_parts standard single notBlock _ ?_ ?_
    · intro part member
      exact Skeleton.advances_of_isNode standard single notBlock notAssignment
        (program.entry_of_mem_parts member).2
    · rw [pass.probe_eq_candidatesIn single, Skeleton.candidatesIn_eq,
        (plain_skeleton program).notCandidate] at present
      simpa using present

/-- What a batch leaves without the first candidate, and how many it meets. -/
theorem apply_all_removeFirst :
    (pass.apply (pass.removeFirst program) .all).value = (pass.apply program .all).value ∧
      (pass.apply (pass.removeFirst program) .all).candidates <
        (pass.apply program .all).candidates ∧
      (pass.kind.deletes = false →
        (pass.apply (pass.removeFirst program) .all).candidates + 1 =
          (pass.apply program .all).candidates) := by
  rcases advances_skeleton standard single notBlock notAssignment present with
    ⟨same, fewer, exact⟩
  simp only [Option.bind_some, Option.elim_some, pass.apply_skeleton, Option.some.injEq]
    at same fewer exact
  refine ⟨?_, fewer, fun replaces => ?_⟩
  · have read := congrArg Program.ofSkeleton? same
    rw [pass.ofSkeleton?_apply, pass.ofSkeleton?_apply, Option.some.injEq] at read
    exact read
  · rcases exact replaces with ⟨_, rfl, met⟩
    rw [pass.apply_skeleton] at met
    exact met

end Steps

/-- A batch leaves the normal form of a program without candidates. -/
theorem apply_all_of_probe_eq_zero (single : pass.kind ≠ .diagnosticLog)
    (notBlock : pass.kind ≠ .block) (finished : pass.probe program = 0) :
    (pass.apply program .all).value = program.normal ∧
      (pass.apply program .all).candidates = 0 := by
  rw [pass.probe_eq_candidatesIn single] at finished
  have settled := Skeleton.settled_iff_candidatesIn.mpr finished
  rcases settled.reduce_value_and_candidates .all with ⟨value, met⟩
  rw [pass.apply_skeleton] at value met
  rw [Skeleton.swept_of_ne_block pass notBlock, Option.some.injEq] at value
  exact ⟨apply_eq_normal_of_skeleton value, met⟩

/--
With the standard options, removing the first candidate over and over comes to
an end after no more steps than a batch meets candidates, and after just as many
if the kind unwraps or simplifies.  If there was anything to remove, what is left
then is what the batch leaves.
-/
theorem one_by_one_eq_batch (kind : RemovalKind) (notBlock : kind ≠ .block)
    (notAssignment : kind ≠ .assignment) (single : kind ≠ .diagnosticLog) (program : Program) :
    ∃ steps,
      (∀ index < steps,
        0 < probe ⟨kind, .standard⟩ ((removeFirst ⟨kind, .standard⟩)^[index] program)) ∧
      probe ⟨kind, .standard⟩ ((removeFirst ⟨kind, .standard⟩)^[steps] program) = 0 ∧
      steps ≤ (apply ⟨kind, .standard⟩ program .all).candidates ∧
      (kind = .cast ∨ kind = .parenthesized ∨ kind = .binary →
        steps = (apply ⟨kind, .standard⟩ program .all).candidates) ∧
      (0 < steps → (removeFirst ⟨kind, .standard⟩)^[steps] program =
        (apply ⟨kind, .standard⟩ program .all).value) := by
  -- The candidates that a batch would meet become fewer with every step.
  induction count : (apply ⟨kind, .standard⟩ program .all).candidates
    using Nat.strongRecOn generalizing program with
  | ind count ih =>
      by_cases finished : probe ⟨kind, .standard⟩ program = 0
      · rcases apply_all_of_probe_eq_zero single notBlock finished with ⟨_, met⟩
        refine ⟨0, by simp, finished, Nat.zero_le _, fun _ => ?_, by simp⟩
        omega
      · have present := Nat.pos_of_ne_zero finished
        rcases apply_all_removeFirst rfl single notBlock notAssignment present with
          ⟨same, fewer, exact⟩
        rcases ih _ (by omega) (removeFirst ⟨kind, .standard⟩ program) rfl with
          ⟨steps, goesOn, ends, bound, exactly, reaches⟩
        refine ⟨steps + 1, ?_, ends, by omega, fun replaces => ?_, fun _ => ?_⟩
        · intro index isBefore
          cases index with
          | zero => exact present
          | succ index => exact goesOn index (by omega)
        · have kept : kind.deletes = false := by
            rcases replaces with rfl | rfl | rfl <;> rfl
          have met := exact kept
          have counted := exactly replaces
          omega
        · rw [Function.iterate_succ_apply]
          cases steps with
          | zero =>
              -- Nothing is left to remove, so a batch has nothing to do after the one step.
              rcases apply_all_of_probe_eq_zero single notBlock ends with ⟨left, _⟩
              rw [← same, Function.iterate_zero_apply]
              exact (left.trans (normal_apply ⟨kind, .standard⟩ program (.nth 0))).symm
          | succ steps => rw [reaches (Nat.succ_pos steps), same]

/-- An assignment of a sum of two literals. -/
def literalSum : Program :=
  ⟨[⟨[], .method ⟨[], "void", "f", [],
    [⟨[], .expr (.assign .assign (.ident "x")
      (.binary .add (.literal (.int 1)) (.literal (.int 2))))⟩]⟩⟩]⟩

/-- The first literal takes the other one with it, so one step does for two candidates. -/
example :
    (apply ⟨.literal, .standard⟩ literalSum .all).candidates = 2 ∧
      probe ⟨.literal, .standard⟩ (removeFirst ⟨.literal, .standard⟩ literalSum) = 0 := by
  constructor <;> rfl

/-- Removing the literals of a sum. -/
theorem one_by_one_eq_batch_sum :
    ∃ steps,
      (∀ index < steps,
        0 < probe ⟨.literal, .standard⟩ ((removeFirst ⟨.literal, .standard⟩)^[index] literalSum)) ∧
      probe ⟨.literal, .standard⟩ ((removeFirst ⟨.literal, .standard⟩)^[steps] literalSum) = 0 ∧
      steps ≤ (apply ⟨.literal, .standard⟩ literalSum .all).candidates ∧
      (RemovalKind.literal = .cast ∨ RemovalKind.literal = .parenthesized ∨
          RemovalKind.literal = .binary →
        steps = (apply ⟨.literal, .standard⟩ literalSum .all).candidates) ∧
      (0 < steps → (removeFirst ⟨.literal, .standard⟩)^[steps] literalSum =
        (apply ⟨.literal, .standard⟩ literalSum .all).value) :=
  one_by_one_eq_batch .literal (by decide) (by decide) (by decide) literalSum

end Pass

end Whittle

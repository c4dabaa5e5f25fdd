import Whittle.Proofs.FixedPoint
import Whittle.Proofs.Weight

/-!
# Recorded changes

A pass records a change when it selects a candidate and when it sweeps a part out
of a list.  Where nothing is recorded nothing is different afterwards.

The converse has to follow what is selected through the gaps.  What takes the
place of a candidate is lighter, and a gap that closes or is emptied leaves less
than before; so the difference shows, unless a node keeps an operand that would
be deleted as it was.  Only shielded nodes do so, and only when assignments are
removed: the other kinds that guard markers are about no operands.
-/

namespace Whittle

/-! ## Operands that are deleted -/

namespace Skeleton

variable {pass : Pass}

/-- If all parts are deleted together then it is for an operand, and the node is not shielded. -/
theorem exists_gone_of_reduceParts {shielded : Bool} {mode : Mode}
    {parts : List (Slot × Skeleton)}
    (gone : (reduceParts pass shielded parts mode).value = none) :
    shielded = false ∧ ∃ operand left, (.operand, operand) ∈ parts ∧
      (operand.reduce pass left).value = none := by
  induction parts generalizing mode with
  | nil => simp at gone
  | cons part rest ih =>
      rcases part with ⟨slot, tree⟩
      have ofRest {mode : Mode} (gone : (reduceParts pass shielded rest mode).value = none) :
          shielded = false ∧ ∃ operand left, (.operand, operand) ∈ (slot, tree) :: rest ∧
            (operand.reduce pass left).value = none := by
        rcases ih gone with ⟨unshielded, operand, left, member, isNone⟩
        exact ⟨unshielded, operand, left, List.mem_cons_of_mem _ member, isNone⟩
      cases sweeps : pass.sweepsAt slot tree with
      | true =>
          simp only [reduceParts_cons, sweeps, if_true, Survey.bind_apply] at gone
          exact ofRest gone
      | false =>
          rw [reduceParts_cons_apply pass shielded rest mode sweeps] at gone
          simp only [Option.bind_eq_bind, Option.pure_def, Option.bind_eq_none_iff] at gone
          cases filled : slot.fill shielded tree (tree.reduce pass mode).value with
          | some front =>
              let left := mode.after (tree.reduce pass mode).candidates
              cases others : (reduceParts pass shielded rest left).value with
              | none => exact ofRest others
              | some rest' => cases gone front filled rest' others
          | none =>
              rcases Slot.eq_none_of_fill filled with ⟨rfl, unshielded, value⟩
              exact ⟨unshielded, tree, mode, List.mem_cons_self .., value⟩

end Skeleton

/-- An expression that a pass deletes is absent. -/
theorem Expr.absent_of_reduce {pass : Pass} (expr : Expr) {mode : Mode}
    (gone : (expr.skeleton.reduce pass mode).value = none) : Node.Absent pass (.expr expr) := by
  induction isTree : expr.skeleton using Skeleton.induct_descendants generalizing expr mode with
  | node tree ih =>
      rcases Skeleton.reduce_cases pass expr.skeleton mode with
        ⟨candidate, _⟩ | ⟨rest, same, _⟩
      · exact .candidate ((pass.isCandidateAt_skeleton (.expr expr)).symm.trans candidate)
      · rw [same, Skeleton.reduceKept_apply] at gone
        rcases Skeleton.exists_gone_of_reduceParts (Option.map_eq_none_iff.mp gone) with
          ⟨unshielded, operand, left, member, isNone⟩
        rcases expr.exists_required_of_operand member with ⟨within, isRequired, rfl⟩
        have isInside : within.skeleton ∈ tree.descendants := by
          rw [← isTree]
          exact Skeleton.mem_descendants_of_mem_parts member
        exact .operand isRequired (ih _ isInside within isNone rfl)
          ((pass.shieldsAt_skeleton (.expr expr)).symm.trans unshielded)

/-! ## No change without a record -/

namespace Skeleton

variable {pass : Pass} {tree : Skeleton}

/-- Parts in which no change is recorded are left as they are. -/
theorem reduceParts_value_of_unchanged {shielded : Bool} {mode : Mode}
    (parts : List (Slot × Skeleton))
    (alike : ∀ part ∈ parts, ∀ mode, (part.2.reduce pass mode).changed = false →
      (part.2.reduce pass mode).value = some part.2)
    (unchanged : (reduceParts pass shielded parts mode).changed = false) :
    (reduceParts pass shielded parts mode).value = some parts := by
  induction parts generalizing mode with
  | nil => simp
  | cons part rest ih =>
      rcases part with ⟨slot, tree⟩
      rcases List.forall_mem_cons.mp alike with ⟨ofTree, ofParts⟩
      cases sweeps : pass.sweepsAt slot tree with
      | true => simp [reduceParts_cons, sweeps, Survey.change] at unchanged
      | false =>
          rw [reduceParts_cons_apply pass shielded rest mode sweeps] at unchanged ⊢
          simp only [Bool.or_eq_false_iff] at unchanged
          have first : (tree.reduce pass mode).value = some tree := ofTree mode unchanged.1
          have others := ih ofParts unchanged.2
          simp [first, others]

/-- A node in which no change is recorded is left as it is. -/
theorem reduce_value_of_unchanged {mode : Mode}
    (unchanged : (tree.reduce pass mode).changed = false) :
    (tree.reduce pass mode).value = some tree := by
  induction tree using Skeleton.induct generalizing mode with
  | node label parts ih =>
      rcases reduce_cases pass (node label parts) mode with
        ⟨_, changed, _⟩ | ⟨rest, value, same⟩
      · rw [changed] at unchanged
        cases unchanged
      · rw [same, reduceKept_apply] at unchanged
        have ofParts := reduceParts_value_of_unchanged parts (fun part member _ => ih part member)
          unchanged
        rw [value, reduceKept_apply]
        simp [ofParts]

/-! ## No record without a change -/

/-- Whether a shielded node cannot do without an operand that is absent. -/
def Restores (pass : Pass) (tree : Skeleton) : Prop :=
  ∃ node : Node, node.skeleton ∈ tree.selfAndDescendants ∧ pass.shields node = true ∧
    ∃ operand ∈ node.required, Node.Absent pass (.expr operand)

/-- A shielded node that does without an operand restores it. -/
theorem IsNode.restores (isNode : tree.IsNode) (shielded : pass.shieldsAt tree = true)
    {operand : Skeleton} (member : (.operand, operand) ∈ tree.parts) {mode : Mode}
    (gone : (operand.reduce pass mode).value = none) : tree.Restores pass := by
  rcases isNode with ⟨node, rfl⟩
  rw [pass.shieldsAt_skeleton] at shielded
  rcases node.exists_required_of_operand member with ⟨within, isRequired, rfl⟩
  have absent := within.absent_of_reduce gone
  exact ⟨node, List.mem_cons_self .., shielded, within, isRequired, absent⟩

theorem Restores.of_mem_parts {part : Slot × Skeleton} (member : part ∈ tree.parts)
    (restores : part.2.Restores pass) : tree.Restores pass := by
  rcases restores with ⟨node, isInside, restored⟩
  refine ⟨node, List.mem_cons_of_mem _ ?_, restored⟩
  cases tree with
  | node label parts =>
      rw [descendants, inParts_eq_flatMap]
      exact List.mem_flatMap.mpr ⟨part, member, isInside⟩

/-- A part that fills its slot with itself was rebuilt, or an absent operand is restored. -/
theorem value_of_fill (standard : pass.options = .standard) {slot : Slot} {shielded : Bool}
    {mode : Mode}
    (filled : slot.fill shielded tree (tree.reduce pass mode).value = some [(slot, tree)]) :
    (tree.reduce pass mode).value = some tree ∨
      (shielded = true ∧ slot = .operand ∧ (tree.reduce pass mode).value = none) := by
  have filling := Slot.filling_of_fill filled
  generalize value : (tree.reduce pass mode).value = rebuilt at filling
  generalize isParts : [(slot, tree)] = parts at filling
  cases filling with
  | rebuilt after =>
      left
      cases isParts
      rfl
  | closed => cases isParts
  | emptied isBody =>
      -- The empty statement is no candidate, so it is not what was deleted here.
      cases isParts
      rw [(settled_nothing standard).reduce_value] at value
      cases value
  | kept isShielded isOperand => exact .inr ⟨isShielded, isOperand, rfl⟩

/-- Parts are left as they are only if each of them fills its slot with itself. -/
theorem stays_of_reduceParts_cons {shielded : Bool} {slot : Slot} {rest : List (Slot × Skeleton)}
    {mode : Mode} (areNodes : ∀ part ∈ (slot, tree) :: rest, part.2.IsNode)
    (value : (reduceParts pass shielded ((slot, tree) :: rest) mode).value =
      some ((slot, tree) :: rest)) :
    pass.sweepsAt slot tree = false ∧
      slot.fill shielded tree (tree.reduce pass mode).value = some [(slot, tree)] ∧
      (reduceParts pass shielded rest (mode.after (tree.reduce pass mode).candidates)).value =
        some rest := by
  rcases List.forall_mem_cons.mp areNodes with ⟨isNode, areOthers⟩
  have lightens : ∀ part ∈ rest, part.2.Lightens pass := by
    intro part member
    exact (areOthers part member).lightens pass
  rcases reduceParts_cons_cases pass value with
    ⟨_, ofRest⟩ | ⟨kept, front, rest', filled, ofRest, joined⟩
  · -- The rest alone is lighter than it is together with what was swept.
    have pos := tree.weight_pos
    rcases weight_of_reduceParts lightens ofRest with same | less
    · simp at same
    · rw [weightOfParts] at less
      omega
  · have isTree : tree.IsNode := isNode
    have first := weight_of_fill (isTree.lightens pass) filled
    have others := weight_of_reduceParts lightens ofRest
    have heavy := congrArg weightOfParts joined
    rw [weightOfParts, weightOfParts_append] at heavy
    -- Neither can be lighter than before, for together they are as heavy.
    rcases first with rfl | less
    · rcases others with rfl | less
      · exact ⟨kept, filled, ofRest⟩
      · simp only [weightOfParts] at heavy
        omega
    · rcases others with rfl | lessRest <;> omega

/-- Parts that are left as they are record no change, unless a shielded node restores one. -/
theorem reduceParts_changed_of_value (standard : pass.options = .standard) {shielded : Bool}
    {mode : Mode} (parts : List (Slot × Skeleton))
    (areNodes : ∀ part ∈ parts, part.2.IsNode)
    (free : ∀ part ∈ parts, ∀ mode, (part.2.reduce pass mode).value = some part.2 →
      (part.2.reduce pass mode).changed = false)
    (held : ∀ part ∈ parts, shielded = true → part.1 = .operand → ∀ mode,
      (part.2.reduce pass mode).value ≠ none)
    (value : (reduceParts pass shielded parts mode).value = some parts) :
    (reduceParts pass shielded parts mode).changed = false := by
  induction parts generalizing mode with
  | nil => simp
  | cons part rest ih =>
      rcases part with ⟨slot, tree⟩
      rcases stays_of_reduceParts_cons areNodes value with ⟨kept, filled, ofRest⟩
      rcases List.forall_mem_cons.mp areNodes with ⟨_, areOthers⟩
      rcases List.forall_mem_cons.mp free with ⟨ofTree, ofOthers⟩
      rcases List.forall_mem_cons.mp held with ⟨heldTree, heldOthers⟩
      have others := ih areOthers ofOthers heldOthers ofRest
      have first : (tree.reduce pass mode).changed = false := by
        rcases value_of_fill standard filled with stays | ⟨isShielded, isOperand, gone⟩
        · exact ofTree mode stays
        · exact (heldTree isShielded isOperand mode gone).elim
      rw [reduceParts_cons_apply pass shielded rest mode kept]
      simp [first, others]

/-- A node that is left as it is records no change, unless an absent operand is restored. -/
theorem reduce_changed_of_value (standard : pass.options = .standard) (isNode : tree.IsNode)
    (restoresNone : ¬tree.Restores pass) {mode : Mode}
    (value : (tree.reduce pass mode).value = some tree) :
    (tree.reduce pass mode).changed = false := by
  induction tree using Skeleton.induct generalizing mode with
  | node label parts ih =>
      rcases reduce_cases pass (node label parts) mode with
        ⟨candidate, _, rest, same⟩ | ⟨rest, same, changed⟩
      · -- What takes the place of a selected node is lighter, so it is not the node itself.
        rw [same] at value
        have inside : ∀ inner ∈ (node label parts).descendants, inner.Lightens pass := by
          intro inner isInside
          have isInner := isNode.of_mem_selfAndDescendants (List.mem_cons_of_mem _ isInside)
          exact isInner.lightens pass
        have less := weight_lt_of_reduceSelected isNode candidate inside value
        omega
      · rw [same, reduceKept_apply] at value
        rw [changed, reduceKept_apply]
        refine reduceParts_changed_of_value standard parts ?_ ?_ ?_ ?_
        · intro part member
          exact isNode.of_mem_parts member
        · intro part member mode stays
          refine ih part member (isNode.of_mem_parts member) ?_ stays
          intro restores
          exact restoresNone (restores.of_mem_parts member)
        · intro part member shielded isOperand mode gone
          rcases part with ⟨slot, operand⟩
          obtain rfl : slot = .operand := isOperand
          exact restoresNone (isNode.restores shielded member gone)
        · simpa using value

end Skeleton

/-! ## Programs -/

theorem Node.normal_of_skeleton {node node' : Node} (same : node.skeleton = node'.skeleton) :
    node.normal = node'.normal := by
  have read := congrArg Skeleton.read? same
  rw [node.read?_skeleton, node'.read?_skeleton] at read
  exact Option.some.inj read

/-- A program has the skeleton of its normal form: that is what a probe without sweeps leaves. -/
theorem Program.skeleton_normal (program : Program) :
    program.normal.skeleton = program.skeleton := by
  let probe : Pass := ⟨.cast, .standard⟩
  have left := Skeleton.reduce_probe_value probe program.skeleton
  rw [Skeleton.swept_of_ne_block probe (by decide), probe.apply_skeleton,
    Option.some.injEq] at left
  rw [← Pass.apply_eq_normal_of_skeleton left, left]

/-- Whether a node that the kind shields cannot do without an operand that is absent. -/
def Program.Restores (pass : Pass) (program : Program) : Prop :=
  ∃ node ∈ program.nodes, pass.shields node = true ∧
    ∃ operand ∈ node.required, Node.Absent pass (.expr operand)

theorem Program.restores_of_mem_parts {pass : Pass} {program : Program} {part : Slot × Skeleton}
    (member : part ∈ program.skeleton.parts) (restores : part.2.Restores pass) :
    program.Restores pass := by
  rcases restores with ⟨node, isInside, shielded, operand, isRequired, gone⟩
  have inProgram : node.skeleton ∈ program.nodes.map Node.skeleton := by
    rw [program.nodes_map_skeleton, Program.skeleton, Skeleton.descendants,
      Skeleton.inParts_eq_flatMap]
    exact List.mem_flatMap.mpr ⟨part, member, isInside⟩
  rcases List.mem_map.mp inProgram with ⟨other, isOther, same⟩
  have normal := Node.normal_of_skeleton same
  refine ⟨other, isOther, ?_, operand, ?_, gone⟩
  · rw [← pass.shields_normal, normal, pass.shields_normal]
    exact shielded
  · rw [← other.required_normal, normal, node.required_normal]
    exact isRequired

namespace Pass

variable {pass : Pass} {program : Program} {mode : Mode}

/-- Where no change is recorded, a pass leaves the normal form of a program. -/
theorem apply_eq_normal_of_unchanged (unchanged : (pass.apply program mode).changed = false) :
    (pass.apply program mode).value = program.normal := by
  have recorded := congrArg Counted.changed (pass.apply_skeleton program mode)
  have value := congrArg Counted.value (pass.apply_skeleton program mode)
  rw [Skeleton.reduce_value_of_unchanged (recorded.trans unchanged), Option.some.injEq] at value
  exact apply_eq_normal_of_skeleton value.symm

/-- Where a pass leaves the normal form of a program, it records no change or restores operands. -/
theorem changed_of_eq_normal (standard : pass.options = .standard)
    (restoresNone : ¬program.Restores pass)
    (same : (pass.apply program mode).value = program.normal) :
    (pass.apply program mode).changed = false := by
  have outcome := pass.reduceParts_skeleton program mode
  rw [same, program.skeleton_normal] at outcome
  have areNodes : ∀ part ∈ program.skeleton.parts, part.2.IsNode := by
    intro part member
    exact (program.entry_of_mem_parts member).2
  have recorded := congrArg Counted.changed outcome
  rw [← recorded]
  refine Skeleton.reduceParts_changed_of_value standard _ areNodes ?_ ?_
    (congrArg Counted.value outcome)
  · intro part member mode value
    exact Skeleton.reduce_changed_of_value standard (areNodes part member)
      (fun restores => restoresNone (Program.restores_of_mem_parts member restores)) value
  · intro part member _ isOperand
    rw [(program.entry_of_mem_parts member).1] at isOperand
    cases isOperand

/-- A kind that is about no expression leaves no operand absent. -/
theorem not_absent_of_matchesExpr (leaves : ∀ expr, pass.matchesExpr expr = false) (expr : Expr) :
    ¬Node.Absent pass (.expr expr) := by
  intro gone
  generalize isNode : Node.expr expr = node at gone
  induction gone generalizing expr with
  | candidate isCandidate =>
      subst isNode
      simp [Pass.isCandidate, matchesNode, leaves] at isCandidate
  | operand isRequired gone unshielded ih => exact ih _ rfl

/-- Only where assignments are removed can an operand be restored. -/
theorem assignment_of_restores (restores : program.Restores pass) : pass.kind = .assignment := by
  rcases restores with ⟨node, _, shielded, operand, _, gone⟩
  by_contra notAssignment
  have guards : pass.kind.guardsMarkers = true := by
    simp only [shields, Bool.and_eq_true] at shielded
    exact shielded.1
  exact not_absent_of_matchesExpr (matchesExpr_of_guardsMarkers guards notAssignment) operand gone

/--
With the standard options a pass that leaves anything but the normal form of a
program has recorded a change.  A change that is recorded shows, unless it is
assignments that are removed and a node that mentions a marker restores an
operand.
-/
theorem changed_unless_restored (kind : RemovalKind) (program : Program) (mode : Mode) :
    ((apply ⟨kind, .standard⟩ program mode).value ≠ program.normal →
      (apply ⟨kind, .standard⟩ program mode).changed = true) ∧
    ((apply ⟨kind, .standard⟩ program mode).changed = true →
      (apply ⟨kind, .standard⟩ program mode).value ≠ program.normal ∨
        (kind = .assignment ∧ program.Restores ⟨kind, .standard⟩)) := by
  constructor
  · intro differs
    by_contra unchanged
    exact differs (apply_eq_normal_of_unchanged (Bool.not_eq_true _ ▸ unchanged))
  · intro changed
    by_cases restores : program.Restores ⟨kind, .standard⟩
    · exact .inr ⟨assignment_of_restores restores, restores⟩
    · left
      intro same
      rw [changed_of_eq_normal rfl restores same] at changed
      cases changed

/-- The inner assignment is selected, and restored because the outer one mentions the counter. -/
theorem changed_counter :
    (apply ⟨.assignment, .standard⟩ counterAssignment .all).changed = true ∧
      (apply ⟨.assignment, .standard⟩ counterAssignment .all).value = counterAssignment.normal := by
  constructor <;> rfl

/-- What is recorded when the assignment in the other one is removed. -/
theorem changed_unless_restored_chained :
    ((apply ⟨.assignment, .standard⟩ chainedAssignment (.nth 1)).value ≠ chainedAssignment.normal →
      (apply ⟨.assignment, .standard⟩ chainedAssignment (.nth 1)).changed = true) ∧
    ((apply ⟨.assignment, .standard⟩ chainedAssignment (.nth 1)).changed = true →
      (apply ⟨.assignment, .standard⟩ chainedAssignment (.nth 1)).value ≠
          chainedAssignment.normal ∨
        (RemovalKind.assignment = .assignment ∧
          chainedAssignment.Restores ⟨.assignment, .standard⟩)) :=
  changed_unless_restored .assignment chainedAssignment (.nth 1)

end Pass

end Whittle

import Whittle.Proofs.SkeletonReading

/-!
# Passes on skeletons

A pass treats all nodes alike: it asks whether the node is selected, puts
something in the place of a selected node, and otherwise goes through the parts
and closes the gaps that deleted parts leave.  What differs from node to node is
the slots of the parts and the labels.  On skeletons this is one definition.

Here a deleted part leaves a gap, and its slot says what becomes of the gap.
-/

namespace Whittle

/-! ## Surveys in a row -/

instance : LawfulMonad Survey := by
  refine LawfulMonad.mk' Survey ?_ ?_ ?_
  · intro α survey
    funext mode
    simp
  · intro α β value next
    funext mode
    simp
  · intro α β γ first second third
    funext mode
    simp [Mode.after_after, Nat.add_assoc, Bool.or_assoc]

/-! ## Gaps -/

/-- What becomes of the place of a part that is deleted. -/
inductive Gap where
  /-- The place goes, too. -/
  | closes
  /-- An empty statement takes the place. -/
  | emptied
  /-- The node cannot do without the part. -/
  | spreads
deriving Repr, DecidableEq

/-- The gap that a part leaves in its slot. -/
def Slot.gap : Slot → Gap
  | .operand => .spreads
  | .body => .emptied
  | .entry | .initial | .start | .test | .update | .otherwise => .closes

/-- The skeleton of the empty statement. -/
def Skeleton.nothing : Skeleton :=
  .node (some .empty) []

/--
What stands in a slot after a part was rebuilt.  A shielded node keeps a part
that it cannot do without as it was; any other node is deleted with it.
-/
def Slot.fill (slot : Slot) (shielded : Bool) (before : Skeleton) :
    Option Skeleton → Option (List (Slot × Skeleton))
  | some tree => some [(slot, tree)]
  | none =>
      match slot.gap with
      | .closes => some []
      | .emptied => some [(slot, .nothing)]
      | .spreads => if shielded then some [(slot, before)] else none

/-- The ways in which a slot is filled after the part that stood there was rebuilt. -/
inductive Slot.Filling (slot : Slot) (shielded : Bool) (before : Skeleton) :
    Option Skeleton → List (Slot × Skeleton) → Prop where
  | rebuilt (after : Skeleton) : Filling slot shielded before (some after) [(slot, after)]
  | closed : Filling slot shielded before none []
  | emptied (isBody : slot = .body) : Filling slot shielded before none [(slot, .nothing)]
  | kept (isShielded : shielded = true) (isOperand : slot = .operand) :
      Filling slot shielded before none [(slot, before)]

theorem Slot.filling_of_fill {slot : Slot} {shielded : Bool} {before : Skeleton}
    {rebuilt : Option Skeleton} {parts : List (Slot × Skeleton)}
    (filled : slot.fill shielded before rebuilt = some parts) :
    slot.Filling shielded before rebuilt parts := by
  cases rebuilt with
  | some after =>
      cases filled
      exact .rebuilt after
  | none =>
      cases slot with
      | operand =>
          obtain ⟨isShielded, rfl⟩ : shielded = true ∧ [(Slot.operand, before)] = parts := by
            simpa [Slot.fill, Slot.gap] using filled
          exact .kept isShielded rfl
      | body =>
          cases filled
          exact .emptied rfl
      | _ =>
          cases filled
          exact .closed

/-- A gap spreads only from an operand, and not to a shielded node. -/
theorem Slot.eq_none_of_fill {slot : Slot} {shielded : Bool} {before : Skeleton}
    {rebuilt : Option Skeleton} (gone : slot.fill shielded before rebuilt = none) :
    slot = .operand ∧ shielded = false ∧ rebuilt = none := by
  cases rebuilt with
  | some after => cases gone
  | none => cases slot <;> simp_all [Slot.fill, Slot.gap]

/-! ## Selected nodes -/

/-- The kind that is about nodes with the given label, not counting diagnostics. -/
def Label.removedBy? : Label → Option RemovalKind
  | .field .. => some .fieldDeclaration
  | .block => some .block
  | .exprStmt => some .expressionStatement
  | .ifElse => some .ifElse
  | .forLoop _ => some .forLoop
  | .doWhile => some .doWhile
  | .literal _ => some .literal
  | .binary _ => some .binary
  | .assign _ => some .assignment
  | .cast _ => some .cast
  | .paren => some .parenthesized
  | .invoke => some .invocation
  | .member _ => some .memberAccess
  | _ => none

namespace Pass

variable (pass : Pass)

theorem removedBy?_of_matchesExpr {expr : Expr} (matched : pass.matchesExpr expr = true) :
    expr.label.removedBy? = some pass.kind := by
  cases expr <;> cases kind : pass.kind <;>
    simp_all [matchesExpr, Expr.label, Label.removedBy?]

theorem removedBy?_of_matchesStmt {stmt : Stmt} (matched : pass.matchesStmt stmt = true)
    (single : pass.kind ≠ .diagnosticLog) :
    stmt.form.label.removedBy? = some pass.kind := by
  rcases stmt with ⟨trivia, form⟩
  cases form <;> cases kind : pass.kind <;>
    simp_all [matchesStmt, StmtForm.isBlock, StmtForm.label, Label.removedBy?]

theorem removedBy?_of_matchesMember {member : Member}
    (matched : pass.matchesMember member = true) :
    member.form.label.removedBy? = some pass.kind := by
  rcases member with ⟨trivia, form⟩
  cases form <;> cases kind : pass.kind <;>
    simp_all [matchesMember, MemberForm.label, Label.removedBy?]

theorem removedBy?_of_isCandidate {node : Node} (candidate : pass.isCandidate node = true)
    (single : pass.kind ≠ .diagnosticLog) :
    node.label.removedBy? = some pass.kind := by
  have matched : pass.matchesNode node = true := by
    simp only [isCandidate, Bool.and_eq_true] at candidate
    exact candidate.1
  cases node with
  | member value => exact pass.removedBy?_of_matchesMember matched
  | stmt value => exact pass.removedBy?_of_matchesStmt matched single
  | expr value => exact pass.removedBy?_of_matchesExpr matched

theorem removedBy?_of_isCandidate_expr {expr : Expr}
    (candidate : pass.isCandidate (.expr expr) = true) :
    expr.label.removedBy? = some pass.kind := by
  simp only [isCandidate, Bool.and_eq_true] at candidate
  exact pass.removedBy?_of_matchesExpr candidate.1

theorem isBatchOnly_eq_false (single : pass.kind ≠ .diagnosticLog) :
    pass.kind.isBatchOnly = false := by
  cases kind : pass.kind <;> simp_all [RemovalKind.isBatchOnly]

/-- A candidate has a label that its kind is about. -/
theorem exists_label_of_isCandidateAt {tree : Skeleton}
    (candidate : pass.isCandidateAt tree = true) (single : pass.kind ≠ .diagnosticLog) :
    ∃ label, tree.label? = some label ∧ label.removedBy? = some pass.kind := by
  simp only [isCandidateAt, Option.any_eq_true] at candidate
  rcases candidate with ⟨node, read, candidate⟩
  exact ⟨node.label, Skeleton.label?_of_read? read,
    pass.removedBy?_of_isCandidate candidate single⟩

/-- A candidate whose operand is surveyed in its turn has that operand and nothing else. -/
theorem exists_operand_of_isCandidateAt {tree : Skeleton}
    (candidate : pass.isCandidateAt tree = true)
    (unwraps : pass.kind = .cast ∨ pass.kind = .parenthesized) :
    ∃ label operand, tree = .node (some label) [(.operand, operand)] ∧
      label.removedBy? = some pass.kind := by
  simp only [isCandidateAt, Option.any_eq_true] at candidate
  rcases candidate with ⟨node, read, candidate⟩
  have removed : node.label.removedBy? = some pass.kind :=
    pass.removedBy?_of_isCandidate candidate (by rcases unwraps with kind | kind <;> simp [kind])
  cases node with
  | member value =>
      rcases value with ⟨trivia, form⟩
      cases form <;> rcases unwraps with kind | kind <;>
        simp [Node.label, MemberForm.label, Label.removedBy?, kind] at removed
  | stmt value =>
      rcases value with ⟨trivia, form⟩
      cases form <;> rcases unwraps with kind | kind <;>
        simp [Node.label, StmtForm.label, Label.removedBy?, kind] at removed
  | expr value =>
      have label : (∃ ty, value.label = .cast ty) ∨ value.label = .paren := by
        cases value <;> rcases unwraps with kind | kind <;>
          simp_all [Node.label, Expr.label, Label.removedBy?]
      rcases Skeleton.eq_operand_of_read? read label with ⟨operand, rfl⟩
      exact ⟨value.label, operand, rfl, removed⟩

end Pass

/-- Whether what takes the place of a selected node is surveyed in its turn. -/
def RemovalKind.revisits : RemovalKind → Bool
  | .cast | .parenthesized => true
  | _ => false

namespace RemovalKind

variable {kind : RemovalKind} (unwraps : kind.revisits = true)

include unwraps

theorem cast_or_parenthesized_of_revisits : kind = .cast ∨ kind = .parenthesized := by
  cases kind <;> simp_all [revisits]

theorem ne_of_revisits {other : RemovalKind} (final : other.revisits = false) : kind ≠ other := by
  rintro rfl
  exact Bool.false_ne_true (final.symm.trans unwraps)

end RemovalKind

/-- What is inside one pair of parentheses, if the node is one. -/
def Skeleton.unparenthesized : Skeleton → Skeleton
  | .node (some .paren) [(_, inner)] => inner
  | tree => tree

theorem Skeleton.sizeOf_unparenthesized_le (tree : Skeleton) :
    sizeOf tree.unparenthesized ≤ sizeOf tree := by
  unfold unparenthesized
  split
  · simp
    omega
  · exact Nat.le_refl _

namespace Pass

variable (pass : Pass)

/-- What takes the place of a selected node. -/
def replacement (tree : Skeleton) : Option Skeleton :=
  match pass.kind, tree with
  | .cast, .node (some (.cast _)) [(_, operand)] => some operand.unparenthesized
  | .parenthesized, .node (some .paren) [(_, inner)] => some inner
  | .binary, .node (some (.binary op)) _ => some op.canonical.skeleton
  | .block, .node (some .block) _ => some (.node (some .block) [])
  | _, _ => none

/-- What takes the place of a selected node and is surveyed in its turn. -/
def revisited? (tree : Skeleton) : Option Skeleton :=
  if pass.kind.revisits then pass.replacement tree else none

theorem sizeOf_revisited?_lt {tree inner : Skeleton}
    (revisited : pass.revisited? tree = some inner) : sizeOf inner < sizeOf tree := by
  unfold revisited? replacement at revisited
  split at revisited
  · split at revisited
    · next operand _ =>
        simp only [Option.some.injEq] at revisited
        subst inner
        have smaller := operand.sizeOf_unparenthesized_le
        simp
        omega
    · simp only [Option.some.injEq] at revisited
      subst inner
      simp
      omega
    all_goals simp_all [RemovalKind.revisits]
  · cases revisited

/-- Whether the kind drops the part from its list without counting it. -/
def sweepsAt (slot : Slot) (tree : Skeleton) : Bool :=
  match pass.kind, slot, tree with
  | .block, .entry, .node (some .block) [] => true
  | _, _, _ => false

/-- Survey a node and go on according to whether it is selected. -/
def choose {α : Type} (candidate : Bool) (selected kept : Survey (Option α)) :
    Survey (Option α) := fun mode =>
  if candidate && (!pass.kind.isBatchOnly || mode.isBatch) then
    let rest := (if mode.selectsNext then selected else kept) (mode.after 1)
    ⟨rest.value, 1 + rest.candidates, mode.selectsNext || rest.changed⟩
  else kept mode

theorem visit_eq_choose {α : Type} (node : Node) (selected kept : Survey (Option α)) :
    pass.visit node selected kept = pass.choose (pass.isCandidate node) selected kept := by
  funext mode
  cases candidate : pass.isCandidate node <;> cases batchOnly : pass.kind.isBatchOnly <;>
    cases batch : mode.isBatch <;> cases selects : mode.selectsNext <;>
    simp [visit, choose, Pass.selects, candidate, batchOnly, batch, selects, Survey.isBatch,
      Survey.candidate]

theorem choose_congr {α : Type} {candidate : Bool} {selected selected' kept : Survey (Option α)}
    (same : candidate = true → selected = selected') :
    pass.choose candidate selected kept = pass.choose candidate selected' kept := by
  cases candidate with
  | false => rfl
  | true => rw [same rfl]

theorem map_choose {α β : Type} (f : α → β) (candidate : Bool)
    (selected kept : Survey (Option α)) :
    Option.map f <$> pass.choose candidate selected kept =
      pass.choose candidate (Option.map f <$> selected) (Option.map f <$> kept) := by
  funext mode
  simp only [Survey.map_apply, choose]
  split
  · split <;> simp only [Survey.map_apply]
  · rfl

end Pass

/-! ## Rebuilding -/

namespace Skeleton

theorem sizeOf_parts_lt (label : Option Label) (parts : List (Slot × Skeleton)) :
    sizeOf parts < sizeOf (node label parts) := by
  rw [node.sizeOf_spec]
  omega

theorem sizeOf_rest_lt (part : Slot × Skeleton) (rest : List (Slot × Skeleton)) :
    sizeOf rest < sizeOf (part :: rest) := by
  rw [List.cons.sizeOf_spec]
  omega

theorem sizeOf_tree_lt (slot : Slot) (tree : Skeleton) (rest : List (Slot × Skeleton)) :
    sizeOf tree < sizeOf ((slot, tree) :: rest) := by
  rw [List.cons.sizeOf_spec, Prod.mk.sizeOf_spec]
  omega

mutual

/-- Rebuild a skeleton, or delete it. -/
def reduce (pass : Pass) (tree : Skeleton) : Survey (Option Skeleton) :=
  pass.choose (pass.isCandidateAt tree)
    (match _inside : pass.revisited? tree with
      | some inner => inner.reduce pass
      | none => pure (pass.replacement tree))
    (match tree with
      | .node label parts => do
          let parts' ← reduceParts pass (pass.shieldsAt (.node label parts)) parts
          return parts'.map (.node label))
termination_by sizeOf tree
decreasing_by
  · exact pass.sizeOf_revisited?_lt _inside
  · exact sizeOf_parts_lt label parts

/-- Rebuild the parts of a node, or delete them all if the node cannot do without one. -/
def reduceParts (pass : Pass) (shielded : Bool) :
    List (Slot × Skeleton) → Survey (Option (List (Slot × Skeleton)))
  | [] => pure (some [])
  | (slot, tree) :: rest => do
      if pass.sweepsAt slot tree then
        Survey.change
        reduceParts pass shielded rest
      else
        let tree' ← tree.reduce pass
        let rest' ← reduceParts pass shielded rest
        return do return (← slot.fill shielded tree tree') ++ (← rest')
termination_by parts => sizeOf parts
decreasing_by
  · exact sizeOf_rest_lt (slot, tree) rest
  · exact sizeOf_tree_lt slot tree rest
  · exact sizeOf_rest_lt (slot, tree) rest

end

variable (pass : Pass)

/-- A selected node: what takes its place, surveyed in its turn if the kind has it so. -/
def reduceSelected (tree : Skeleton) : Survey (Option Skeleton) :=
  match pass.revisited? tree with
  | some inner => inner.reduce pass
  | none => pure (pass.replacement tree)

/-- A node that is not selected: its parts are rebuilt. -/
def reduceKept (tree : Skeleton) : Survey (Option Skeleton) := do
  let parts' ← reduceParts pass (pass.shieldsAt tree) tree.parts
  return parts'.map (.node tree.label?)

theorem reduce_eq (tree : Skeleton) :
    tree.reduce pass =
      pass.choose (pass.isCandidateAt tree) (tree.reduceSelected pass) (tree.reduceKept pass) := by
  cases tree with
  | node label parts =>
      rw [reduce]
      congr 1
      unfold reduceSelected
      split <;> simp_all

@[simp]
theorem reduceParts_nil (shielded : Bool) : reduceParts pass shielded [] = pure (some []) := by
  rw [reduceParts]

theorem reduceParts_cons (shielded : Bool) (slot : Slot) (tree : Skeleton)
    (rest : List (Slot × Skeleton)) :
    reduceParts pass shielded ((slot, tree) :: rest) =
      if pass.sweepsAt slot tree then do
        Survey.change
        reduceParts pass shielded rest
      else do
        let tree' ← tree.reduce pass
        let rest' ← reduceParts pass shielded rest
        return do return (← slot.fill shielded tree tree') ++ (← rest') := by
  rw [reduceParts]

theorem reduceParts_cons_apply (shielded : Bool) {slot : Slot} {tree : Skeleton}
    (rest : List (Slot × Skeleton)) (mode : Mode) (kept : pass.sweepsAt slot tree = false) :
    reduceParts pass shielded ((slot, tree) :: rest) mode =
      let first := tree.reduce pass mode
      let others := reduceParts pass shielded rest (mode.after first.candidates)
      ⟨do return (← slot.fill shielded tree first.value) ++ (← others.value),
        first.candidates + others.candidates, first.changed || others.changed⟩ := by
  rw [reduceParts_cons, kept]
  simp

/-- The first part is swept, or what fills its slot comes before what is left of the rest. -/
theorem reduceParts_cons_cases {shielded : Bool} {slot : Slot} {tree : Skeleton}
    {rest parts' : List (Slot × Skeleton)} {mode : Mode}
    (value : (reduceParts pass shielded ((slot, tree) :: rest) mode).value = some parts') :
    (pass.sweepsAt slot tree = true ∧ (reduceParts pass shielded rest mode).value = some parts') ∨
    (pass.sweepsAt slot tree = false ∧ ∃ front rest',
      slot.fill shielded tree (tree.reduce pass mode).value = some front ∧
      (reduceParts pass shielded rest (mode.after (tree.reduce pass mode).candidates)).value =
        some rest' ∧
      parts' = front ++ rest') := by
  cases sweeps : pass.sweepsAt slot tree with
  | true =>
      left
      simpa [reduceParts_cons, sweeps, Survey.change] using value
  | false =>
      right
      rw [reduceParts_cons_apply pass shielded rest mode sweeps] at value
      simp only [Option.bind_eq_bind, Option.bind_eq_some_iff, Option.pure_def,
        Option.some.injEq] at value
      rcases value with ⟨front, filled, rest', ofRest, joined⟩
      exact ⟨rfl, front, rest', filled, ofRest, joined.symm⟩

theorem reduceKept_apply (tree : Skeleton) (mode : Mode) :
    tree.reduceKept pass mode =
      let parts := reduceParts pass (pass.shieldsAt tree) tree.parts mode
      ⟨parts.value.map (.node tree.label?), parts.candidates, parts.changed⟩ := by
  rw [reduceKept]
  simp

theorem reduce_of_not_isCandidateAt {tree : Skeleton} (mode : Mode)
    (other : pass.isCandidateAt tree = false) :
    tree.reduce pass mode = tree.reduceKept pass mode := by
  simp [reduce_eq, Pass.choose, other]

/-- A candidate counts, whether or not it is selected. -/
theorem reduce_of_isCandidateAt {tree : Skeleton} (mode : Mode)
    (candidate : pass.isCandidateAt tree = true)
    (active : (!pass.kind.isBatchOnly || mode.isBatch) = true) :
    tree.reduce pass mode =
      let rest :=
        (if mode.selectsNext then tree.reduceSelected pass else tree.reduceKept pass) (mode.after 1)
      ⟨rest.value, 1 + rest.candidates, mode.selectsNext || rest.changed⟩ := by
  rw [reduce_eq, Pass.choose, candidate, active]
  rfl

/-- A node is selected, which is a change, or else its parts are rebuilt. -/
theorem reduce_cases (tree : Skeleton) (mode : Mode) :
    (pass.isCandidateAt tree = true ∧ (tree.reduce pass mode).changed = true ∧
      ∃ rest, (tree.reduce pass mode).value = (tree.reduceSelected pass rest).value) ∨
    ∃ rest, (tree.reduce pass mode).value = (tree.reduceKept pass rest).value ∧
      (tree.reduce pass mode).changed = (tree.reduceKept pass rest).changed := by
  rw [reduce_eq, Pass.choose]
  split
  · next active =>
      cases selects : mode.selectsNext with
      | true =>
          left
          simp only [Bool.and_eq_true] at active
          exact ⟨active.1, rfl, mode.after 1, rfl⟩
      | false => exact .inr ⟨mode.after 1, rfl, rfl⟩
  · exact .inr ⟨mode, rfl, rfl⟩

theorem reduceParts_append (shielded : Bool) (first second : List (Slot × Skeleton)) :
    reduceParts pass shielded (first ++ second) = do
      let first' ← reduceParts pass shielded first
      let second' ← reduceParts pass shielded second
      return do return (← first') ++ (← second') := by
  induction first with
  | nil => simp
  | cons part rest ih =>
      rcases part with ⟨slot, tree⟩
      simp only [List.cons_append, reduceParts_cons]
      split
      · simp [ih]
      · simp only [ih, bind_assoc, pure_bind]
        congr 1
        funext tree'
        congr 1
        funext rest'
        congr 1
        funext second'
        cases slot.fill shielded tree tree' <;> cases rest' <;> cases second' <;> simp

end Skeleton

end Whittle

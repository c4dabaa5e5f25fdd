import Whittle.Proofs.Deletion
import Whittle.Proofs.MarkerSurvival

/-!
# Fixed points of batches

A skeleton is settled if it has no candidates.  A batch leaves what is settled,
up to what it sweeps out of lists.

A batch leaves a skeleton that is settled.  What takes the place of a candidate
is: it is surveyed in its turn, or it is as simple as it can be.  A node that is
no candidate does not become one when its parts are rebuilt.  Why not is
different for the kinds: mostly the label decides; a guarded node still mentions
its marker; a simplified operator has nothing left to rebuild; and what a
statement begins with does not depend on other statements.

Only when assignments are removed can an operand that a shielded node has kept
be a candidate.  It is kept again.
-/

namespace Whittle

namespace Skeleton

variable (pass : Pass)

/-! ## Settled skeletons -/

/-- There is no candidate in the skeleton. -/
def Settled (tree : Skeleton) : Prop :=
  ∀ inner ∈ tree.selfAndDescendants, pass.isCandidateAt inner = false

variable {pass}

theorem Settled.isCandidateAt {tree : Skeleton} (settled : tree.Settled pass) :
    pass.isCandidateAt tree = false :=
  settled tree (List.mem_cons_self ..)

theorem settled_node_iff {label : Option Label} {parts : List (Slot × Skeleton)} :
    (node label parts).Settled pass ↔
      pass.isCandidateAt (node label parts) = false ∧ ∀ part ∈ parts, part.2.Settled pass := by
  constructor
  · intro settled
    refine ⟨settled.isCandidateAt, fun part member inner isInside => settled inner ?_⟩
    refine List.mem_cons_of_mem _ ?_
    rw [descendants, inParts_eq_flatMap]
    exact List.mem_flatMap.mpr ⟨part, member, isInside⟩
  · rintro ⟨own, ofParts⟩ inner member
    rcases List.mem_cons.mp member with rfl | member
    · exact own
    · rw [descendants, inParts_eq_flatMap, List.mem_flatMap] at member
      rcases member with ⟨part, isPart, isInside⟩
      exact ofParts part isPart inner isInside

/-- Parts without candidates pass on what is to be selected, and are left but for what is swept. -/
theorem reduceParts_of_forall_settled (shielded : Bool) (mode : Mode)
    (parts : List (Slot × Skeleton))
    (alike : ∀ part ∈ parts, (part.2.reduce pass mode).value = some (part.2.swept pass) ∧
      (part.2.reduce pass mode).candidates = 0) :
    (reduceParts pass shielded parts mode).value = some (sweptParts pass parts) ∧
      (reduceParts pass shielded parts mode).candidates = 0 := by
  induction parts with
  | nil => simp [sweptParts]
  | cons part rest ih =>
      rcases part with ⟨slot, tree⟩
      rcases ih fun part member => alike part (List.mem_cons_of_mem _ member) with ⟨value, met⟩
      cases sweeps : pass.sweepsAt slot tree with
      | true => simp [reduceParts_cons, sweeps, Survey.change, value, met, sweptParts]
      | false =>
          rcases alike (slot, tree) (by simp) with ⟨ofTree, noneMet⟩
          rw [reduceParts_cons_apply pass shielded rest mode sweeps]
          simp only at ofTree noneMet
          simp [ofTree, noneMet, value, met, sweptParts, sweeps]

/-- A pass finds nothing in what is settled, and leaves it but for what it sweeps. -/
theorem Settled.reduce_value_and_candidates {tree : Skeleton} (settled : tree.Settled pass)
    (mode : Mode) :
    (tree.reduce pass mode).value = some (tree.swept pass) ∧
      (tree.reduce pass mode).candidates = 0 := by
  induction tree using Skeleton.induct with
  | node label parts ih =>
      rcases settled_node_iff.mp settled with ⟨own, ofParts⟩
      rcases reduceParts_of_forall_settled (pass.shieldsAt (node label parts)) mode parts
        fun part member => ih part member (ofParts part member) with ⟨value, met⟩
      rw [reduce_of_not_isCandidateAt pass _ own, reduceKept_apply]
      simp [value, met, swept]

theorem Settled.reduce_value {tree : Skeleton} (settled : tree.Settled pass) (mode : Mode) :
    (tree.reduce pass mode).value = some (tree.swept pass) :=
  (settled.reduce_value_and_candidates mode).1

/-- A batch finds nothing in what is settled. -/
theorem Settled.reduce_all_candidates {tree : Skeleton} (settled : tree.Settled pass) :
    (tree.reduce pass .all).candidates = 0 :=
  (settled.reduce_value_and_candidates .all).2

/-! ## What a batch leaves in a slot -/

/-- How what a batch leaves in a slot comes from the part that stood there. -/
inductive Origin (pass : Pass) (shielded : Bool) (before : Slot × Skeleton) :
    Slot × Skeleton → Prop where
  /-- The part was rebuilt. -/
  | rebuilt {tree : Skeleton} (value : (before.2.reduce pass .all).value = some tree) :
      Origin pass shielded before (before.1, tree)
  /-- The part was deleted, and an empty statement takes its place. -/
  | emptied (isBody : before.1 = .body) : Origin pass shielded before (before.1, .nothing)
  /-- The part would be deleted, but a shielded node cannot do without it. -/
  | kept (isShielded : shielded = true) (isOperand : before.1 = .operand)
      (gone : (before.2.reduce pass .all).value = none) : Origin pass shielded before before

theorem origin_of_mem_fill {slot : Slot} {shielded : Bool} {before : Skeleton}
    {parts : List (Slot × Skeleton)}
    (filled : slot.fill shielded before (before.reduce pass .all).value = some parts)
    {part : Slot × Skeleton} (member : part ∈ parts) :
    Origin pass shielded (slot, before) part := by
  have filling := Slot.filling_of_fill filled
  generalize value : (before.reduce pass .all).value = rebuilt at filling
  cases filling with
  | rebuilt after =>
      rcases List.mem_singleton.mp member with rfl
      exact .rebuilt value
  | closed => cases member
  | emptied isBody =>
      rcases List.mem_singleton.mp member with rfl
      exact .emptied isBody
  | kept isShielded isOperand =>
      rcases List.mem_singleton.mp member with rfl
      exact .kept isShielded isOperand value

/-- Every part that a batch leaves comes from one of the parts before. -/
theorem exists_origin_of_mem_reduceParts {shielded : Bool}
    {parts parts' : List (Slot × Skeleton)}
    (value : (reduceParts pass shielded parts .all).value = some parts')
    {part' : Slot × Skeleton} (member : part' ∈ parts') :
    ∃ part ∈ parts, Origin pass shielded part part' := by
  induction parts generalizing parts' with
  | nil =>
      obtain rfl : [] = parts' := by simpa using value
      cases member
  | cons part rest ih =>
      rcases part with ⟨slot, tree⟩
      rcases reduceParts_cons_cases pass value with
        ⟨_, ofRest⟩ | ⟨_, front, rest', filled, ofRest, rfl⟩
      · rcases ih ofRest member with ⟨part, inRest, origin⟩
        exact ⟨part, List.mem_cons_of_mem _ inRest, origin⟩
      · rcases List.mem_append.mp member with inFront | inRest
        · exact ⟨(slot, tree), List.mem_cons_self .., origin_of_mem_fill filled inFront⟩
        · rcases ih ofRest inRest with ⟨part, inRest, origin⟩
          exact ⟨part, List.mem_cons_of_mem _ inRest, origin⟩

end Skeleton

/-! ## Expressions -/

/-- Everything in an expression is an expression that stands in its text as it is. -/
theorem Expr.exists_of_mem_selfAndDescendants (expr : Expr) {inner : Skeleton}
    (member : inner ∈ expr.skeleton.selfAndDescendants) :
    ∃ within : Expr, inner = within.skeleton ∧ within.chars <:+: expr.chars := by
  induction isTree : expr.skeleton using Skeleton.induct generalizing expr with
  | node label parts ih =>
      rw [isTree] at member
      rcases List.mem_cons.mp member with rfl | member
      · exact ⟨expr, isTree.symm, List.infix_rfl⟩
      · rw [Skeleton.descendants, Skeleton.inParts_eq_flatMap, List.mem_flatMap] at member
        rcases member with ⟨part, isPart, isInside⟩
        have ofExpr : part ∈ expr.skeleton.parts := by
          rw [isTree]
          exact isPart
        rcases expr.includes_of_mem_parts ofExpr with ⟨operand, isOperand, within⟩
        rcases ih part isPart operand (isOperand ▸ isInside) isOperand.symm with
          ⟨deeper, isDeeper, withinOperand⟩
        exact ⟨deeper, isDeeper, withinOperand.trans within⟩

theorem ForInit.ne_operand_of_mem_inSlots {init : Option ForInit} {part : Slot × Skeleton}
    (member : part ∈ ForInit.inSlots init) : part.1 ≠ .operand := by
  match init with
  | none => cases member
  | some (.declare decl) =>
      rcases Expr.exists_of_mem_optionInSlot member with ⟨_, _, rfl⟩
      simp
  | some (.run exprs) =>
      rcases Expr.exists_of_mem_inSlot member with ⟨_, _, rfl⟩
      simp

theorem Expr.exists_required_of_operand (expr : Expr) {tree : Skeleton}
    (member : (.operand, tree) ∈ expr.skeleton.parts) :
    ∃ operand ∈ expr.required, tree = operand.skeleton := by
  cases expr with
  | invoke callee args =>
      refine ⟨callee, by simp [required], ?_⟩
      rcases List.mem_cons.mp member with isCallee | isArg
      · cases isCallee
        rfl
      · rcases Expr.exists_of_mem_inSlot isArg with ⟨_, _, isEntry⟩
        cases isEntry
  | literal value => cases member
  | ident name => cases member
  | _ => simpa [skeleton, required] using member

theorem StmtForm.exists_required_of_operand (form : StmtForm) {tree : Skeleton}
    (member : (.operand, tree) ∈ form.inSlots) :
    ∃ operand ∈ form.required, tree = operand.skeleton := by
  cases form with
  | block body =>
      rcases Stmt.exists_of_mem_entries member with ⟨_, _, isEntry⟩
      cases isEntry
  | declare decl =>
      rcases Expr.exists_of_mem_optionInSlot member with ⟨_, _, isInitial⟩
      cases isInitial
  | expr value => exact ⟨value, by simp [required], by simpa [inSlots] using member⟩
  | ifElse cond thenBranch elseBranch =>
      refine ⟨cond, by simp [required], ?_⟩
      cases elseBranch <;> simpa [inSlots] using member
  | forLoop init cond update body =>
      simp only [inSlots, List.mem_append, List.mem_singleton, Prod.mk.injEq] at member
      rcases member with ((member | member) | member) | ⟨isBody, _⟩
      · exact (ForInit.ne_operand_of_mem_inSlots member rfl).elim
      · rcases Expr.exists_of_mem_optionInSlot member with ⟨_, _, isTest⟩
        cases isTest
      · rcases Expr.exists_of_mem_inSlot member with ⟨_, _, isUpdate⟩
        cases isUpdate
      · cases isBody
  | whileLoop cond body => exact ⟨cond, by simp [required], by simpa [inSlots] using member⟩
  | doWhile body cond => exact ⟨cond, by simp [required], by simpa [inSlots] using member⟩
  | ret value =>
      rcases Expr.exists_of_mem_optionInSlot member with ⟨_, _, isInitial⟩
      cases isInitial
  | brk => cases member
  | cont => cases member
  | empty => cases member

/-- What stands as an operand in a node is one of the expressions that it cannot do without. -/
theorem Node.exists_required_of_operand (node : Node) {tree : Skeleton}
    (member : (.operand, tree) ∈ node.skeleton.parts) :
    ∃ operand ∈ node.required, tree = operand.skeleton := by
  cases node with
  | member value =>
      rcases value with ⟨trivia, form⟩
      cases form with
      | classDecl modifiers name members =>
          rcases Member.exists_of_mem_entries member with ⟨_, _, isEntry⟩
          cases isEntry
      | field decl =>
          rcases Expr.exists_of_mem_optionInSlot member with ⟨_, _, isInitial⟩
          cases isInitial
      | method decl =>
          rcases Stmt.exists_of_mem_entries member with ⟨_, _, isEntry⟩
          cases isEntry
  | stmt value =>
      rcases value with ⟨trivia, form⟩
      exact form.exists_required_of_operand member
  | expr value => exact value.exists_required_of_operand member

namespace Pass

variable {pass : Pass}

/-- A kind that is about no expression settles all of them. -/
theorem settled_of_matchesExpr (leaves : ∀ expr, pass.matchesExpr expr = false) (expr : Expr) :
    expr.skeleton.Settled pass := by
  intro inner member
  rcases expr.exists_of_mem_selfAndDescendants member with ⟨within, rfl, _⟩
  have notCandidate : pass.isCandidate (.expr within) = false := by
    simp [isCandidate, matchesNode, leaves]
  exact (pass.isCandidateAt_skeleton (.expr within)).trans notCandidate

/-- Of the kinds that guard markers only one is about expressions. -/
theorem matchesExpr_of_guardsMarkers (guards : pass.kind.guardsMarkers = true)
    (notAssignment : pass.kind ≠ .assignment) (expr : Expr) : pass.matchesExpr expr = false := by
  cases kind : pass.kind <;> simp [kind, RemovalKind.guardsMarkers] at guards notAssignment <;>
    simp [matchesExpr, kind]

/-- But for binary expressions and blocks, the label decides what a kind is about. -/
theorem matchesNode_of_removedBy? {node : Node}
    (removed : node.label.removedBy? = some pass.kind) (notBinary : pass.kind ≠ .binary)
    (notBlock : pass.kind ≠ .block) : pass.matchesNode node = true := by
  cases node with
  | member value =>
      rcases value with ⟨trivia, form⟩
      cases form <;> cases kind : pass.kind <;>
        simp_all [Node.label, MemberForm.label, Label.removedBy?, matchesNode, matchesMember]
  | stmt value =>
      rcases value with ⟨trivia, form⟩
      cases form <;> cases kind : pass.kind <;>
        simp_all [Node.label, StmtForm.label, Label.removedBy?, matchesNode, matchesStmt]
  | expr value =>
      cases value <;> cases kind : pass.kind <;>
        simp_all [Node.label, Expr.label, Label.removedBy?, matchesNode, matchesExpr]

/-! ## Simplified operators -/

/-- A binary expression is written with spaces. -/
theorem space_mem_of_matchesExpr (binary : pass.kind = .binary) {expr : Expr}
    (matched : pass.matchesExpr expr = true) : ' ' ∈ expr.chars := by
  cases expr <;> simp_all [matchesExpr, Expr.chars, Expr.between]

/-- The operands of a simplified expression are written without spaces. -/
theorem operands_of_canonical {op : BinaryOp} {lhs rhs : Expr}
    (same : (Expr.binary op lhs rhs).chars = op.canonical.chars) :
    ' ' ∉ lhs.chars ∧ ' ' ∉ rhs.chars := by
  have spaces := congrArg (List.count ' ') same
  have noneInToken : op.token.toList.count ' ' = 0 := by cases op <;> decide
  have noneLeft : (Literal.int canonicalLeft).chars.count ' ' = 0 := by decide
  have noneRight : (Literal.int canonicalRight).chars.count ' ' = 0 := by decide
  simp only [BinaryOp.canonical, Expr.chars, Expr.between, List.count_append, List.count_cons_self,
    noneInToken, noneLeft, noneRight] at spaces
  constructor
  · exact List.count_eq_zero.mp (by omega)
  · exact List.count_eq_zero.mp (by omega)

/-- A binary expression that is not simplified any further has nothing inside to simplify. -/
theorem settled_binary (binary : pass.kind = .binary) {op : BinaryOp} {lhs rhs : Expr}
    (notCandidate : pass.isCandidate (.expr (.binary op lhs rhs)) = false) :
    (Expr.binary op lhs rhs).skeleton.Settled pass := by
  have ofOperand {operand : Expr} (noSpace : ' ' ∉ operand.chars) :
      operand.skeleton.Settled pass := by
    intro inner member
    rcases operand.exists_of_mem_selfAndDescendants member with ⟨within, rfl, isInfix⟩
    rw [Bool.eq_false_iff]
    intro candidate
    have selected := (pass.isCandidateAt_skeleton (.expr within)).symm.trans candidate
    simp only [isCandidate, Bool.and_eq_true] at selected
    have matched : pass.matchesExpr within = true := selected.1
    exact noSpace (isInfix.subset (space_mem_of_matchesExpr binary matched))
  have same : (Expr.binary op lhs rhs).chars = op.canonical.chars := by
    simpa [isCandidate, matchesNode, matchesExpr, binary, shields,
      RemovalKind.guardsMarkers] using notCandidate
  rcases operands_of_canonical same with ⟨left, right⟩
  rw [Expr.skeleton, Skeleton.settled_node_iff]
  refine ⟨(pass.isCandidateAt_skeleton (.expr (.binary op lhs rhs))).trans notCandidate, ?_⟩
  intro part member
  simp only [List.mem_cons, List.not_mem_nil, or_false] at member
  rcases member with rfl | rfl
  · exact ofOperand left
  · exact ofOperand right

/-! ## Diagnostics -/

theorem matchesExpr_of_diagnosticLog (diagnostic : pass.kind = .diagnosticLog) (expr : Expr) :
    pass.matchesExpr expr = false := by
  cases expr <;> simp [matchesExpr, diagnostic]

/-- A statement that holds no other one is settled unless it is a diagnostic. -/
theorem settled_of_holdsExprs (diagnostic : pass.kind = .diagnosticLog) {stmt : Stmt}
    (holdsExprs : ∀ part ∈ stmt.form.inSlots, ∃ expr : Expr, part.2 = expr.skeleton)
    (notCandidate : pass.isCandidate (.stmt stmt) = false) : stmt.skeleton.Settled pass := by
  rcases stmt with ⟨trivia, form⟩
  rw [Stmt.skeleton, Skeleton.settled_node_iff]
  refine ⟨(pass.isCandidateAt_skeleton (.stmt ⟨trivia, form⟩)).trans notCandidate, ?_⟩
  intro part member
  rcases holdsExprs part member with ⟨expr, isExpr⟩
  rw [isExpr]
  exact settled_of_matchesExpr (matchesExpr_of_diagnosticLog diagnostic) expr

/-- A statement that begins as a diagnostic is one of those that hold no other statement. -/
theorem declare_or_expr_of_beginsDiagnostic {trivia : List Comment} {form : StmtForm}
    (begins : ReduceOptions.standard.beginsDiagnostic (.stmt ⟨trivia, form⟩) = true) :
    (∃ ty name, form.label = .declare ty name) ∨ form.label = .exprStmt := by
  have start : "Log(".toList.isPrefixOf (form.chars (Layout.bare 0)) = true := begins
  cases form with
  | declare decl => exact .inl ⟨decl.ty, decl.name, rfl⟩
  | expr value => exact .inr rfl
  | block body =>
      simp only [StmtForm.chars_block, Layout.braces] at start
      split at start <;> simp at start
  | ifElse cond thenBranch elseBranch => cases elseBranch <;> simp at start
  | ret value => cases value <;> simp at start
  | forLoop => simp at start
  | whileLoop => simp at start
  | doWhile => simp at start
  | brk => simp at start
  | cont => simp at start
  | empty => simp at start

/-- What has the label of a diagnostic is a statement that holds no other one. -/
theorem exists_stmt_of_label {trivia : List Comment} {form : StmtForm} {node : Node}
    (begins : ReduceOptions.standard.beginsDiagnostic (.stmt ⟨trivia, form⟩) = true)
    (isLabel : form.label = node.label) :
    ∃ stmt, node = .stmt stmt ∧
      ∀ part ∈ stmt.form.inSlots, ∃ expr : Expr, part.2 = expr.skeleton := by
  have label : (∃ ty name, node.label = .declare ty name) ∨ node.label = .exprStmt := by
    rw [← isLabel]
    exact declare_or_expr_of_beginsDiagnostic begins
  cases node with
  | member value =>
      rcases value with ⟨_, form⟩
      cases form <;> simp [Node.label, MemberForm.label] at label
  | expr value => cases value <;> simp [Node.label, Expr.label] at label
  | stmt value =>
      refine ⟨value, rfl, ?_⟩
      rcases value with ⟨_, form⟩
      cases form with
      | declare decl =>
          intro part member
          rcases Expr.exists_of_mem_optionInSlot member with ⟨value, _, rfl⟩
          exact ⟨value, rfl⟩
      | expr value =>
          intro part member
          rcases List.mem_singleton.mp member with rfl
          exact ⟨value, rfl⟩
      | _ => simp [Node.label, StmtForm.label] at label

/-- A node with the label of a diagnostic has nothing inside that is one. -/
theorem settled_of_isCandidate (diagnostic : pass.kind = .diagnosticLog)
    (standard : pass.options = .standard) {node node' : Node}
    (candidate : pass.isCandidate node' = true) (isLabel : node'.label = node.label)
    (notCandidate : pass.isCandidate node = false) : node.skeleton.Settled pass := by
  simp only [isCandidate, Bool.and_eq_true] at candidate
  have matched := candidate.1
  cases node' with
  | member value => simp [matchesNode, matchesMember, diagnostic] at matched
  | expr value =>
      rw [matchesNode, matchesExpr_of_diagnosticLog diagnostic] at matched
      cases matched
  | stmt value =>
      rcases value with ⟨trivia, form⟩
      have begins : ReduceOptions.standard.beginsDiagnostic (.stmt ⟨trivia, form⟩) = true := by
        simpa [matchesNode, matchesStmt, diagnostic, standard] using matched
      rcases exists_stmt_of_label begins isLabel with ⟨stmt, rfl, holdsExprs⟩
      exact settled_of_holdsExprs diagnostic holdsExprs notCandidate

end Pass

/-! ## Nodes that are no candidates -/

namespace Skeleton

variable {pass : Pass} {tree after : Skeleton}

/-- A node that is not selected keeps its label, and its parts are rebuilt. -/
theorem exists_parts_of_reduce {mode : Mode} (notCandidate : pass.isCandidateAt tree = false)
    (value : (tree.reduce pass mode).value = some after) :
    ∃ parts, (reduceParts pass (pass.shieldsAt tree) tree.parts mode).value = some parts ∧
      after = node tree.label? parts := by
  rw [reduce_of_not_isCandidateAt pass _ notCandidate, reduceKept_apply] at value
  rcases Option.map_eq_some_iff.mp value with ⟨parts, ofParts, isAfter⟩
  exact ⟨parts, ofParts, isAfter.symm⟩

/-- A settled skeleton stays as it is if nothing is swept out of it. -/
theorem eq_of_settled {mode : Mode} (settled : tree.Settled pass)
    (whole : tree.swept pass = tree) (value : (tree.reduce pass mode).value = some after) :
    after = tree := by
  rw [settled.reduce_value, whole, Option.some.injEq] at value
  exact value.symm

/-- A node with a label that the kind is not about does not become a candidate. -/
theorem isCandidateAt_of_label? (single : pass.kind ≠ .diagnosticLog)
    (same : after.label? = tree.label?)
    (other : ∀ label, tree.label? = some label → label.removedBy? ≠ some pass.kind) :
    pass.isCandidateAt after = false := by
  rw [Bool.eq_false_iff]
  intro candidate
  rcases pass.exists_label_of_isCandidateAt candidate single with ⟨label, isLabel, removed⟩
  exact other label (same ▸ isLabel) removed

/-- A statement does not become a diagnostic when the ones inside it are rebuilt. -/
theorem isCandidateAt_of_reduce_diagnosticLog {mode : Mode}
    (diagnostic : pass.kind = .diagnosticLog) (standard : pass.options = .standard)
    (isNode : tree.IsNode) (notCandidate : pass.isCandidateAt tree = false)
    (value : (tree.reduce pass mode).value = some after) : pass.isCandidateAt after = false := by
  rcases isNode with ⟨node, rfl⟩
  rcases exists_parts_of_reduce notCandidate value with ⟨parts, _, isAfter⟩
  have whole := swept_of_ne_block pass (by simp [diagnostic]) node.skeleton
  rw [Bool.eq_false_iff]
  intro candidate
  have settled : node.skeleton.Settled pass := by
    simp only [Pass.isCandidateAt, Option.any_eq_true] at candidate
    rcases candidate with ⟨node', read, candidate⟩
    have isLabel : node'.label = node.label := by
      have ofRead := label?_of_read? read
      rw [isAfter, label?_node, Node.label?_skeleton] at ofRead
      exact (Option.some.inj ofRead).symm
    rw [Pass.isCandidateAt_skeleton] at notCandidate
    exact Pass.settled_of_isCandidate diagnostic standard candidate isLabel notCandidate
  rw [eq_of_settled settled whole value, notCandidate] at candidate
  cases candidate

/-- A block that is no candidate has nothing in it. -/
theorem settled_block (block : pass.kind = .block) {node : Node} (isBlock : node.label = .block)
    (notCandidate : pass.isCandidate node = false) :
    node.skeleton.Settled pass ∧ node.skeleton.swept pass = node.skeleton := by
  have isEmpty : node.skeleton = .node (some .block) [] := by
    cases node with
    | member value =>
        rcases value with ⟨_, form⟩
        cases form <;> cases isBlock
    | expr value => cases value <;> cases isBlock
    | stmt value =>
        rcases value with ⟨_, form⟩
        cases form with
        | block body =>
            have isEmpty : body.isEmpty = true := by
              simpa [Pass.isCandidate, Pass.matchesNode, Pass.matchesStmt, block,
                StmtForm.isBlock, StmtForm.isEmptyBlock, Pass.shields,
                RemovalKind.guardsMarkers] using notCandidate
            rw [List.isEmpty_iff.mp isEmpty]
            rfl
        | _ => cases isBlock
  rw [← pass.isCandidateAt_skeleton, isEmpty] at notCandidate
  rw [isEmpty, settled_node_iff]
  exact ⟨⟨notCandidate, by simp⟩, rfl⟩

theorem settled_of_binary (binary : pass.kind = .binary) {node : Node} {op : BinaryOp}
    (isBinary : node.label = .binary op) (notCandidate : pass.isCandidate node = false) :
    node.skeleton.Settled pass := by
  rcases Node.exists_of_label_binary isBinary with ⟨lhs, rhs, rfl⟩
  exact Pass.settled_binary binary notCandidate

/-- A node that is no candidate does not become one when its parts are rebuilt. -/
theorem isCandidateAt_of_reduce {mode : Mode} (standard : pass.options = .standard)
    (isNode : tree.IsNode) (notCandidate : pass.isCandidateAt tree = false)
    (value : (tree.reduce pass mode).value = some after) : pass.isCandidateAt after = false := by
  by_cases diagnostic : pass.kind = .diagnosticLog
  · exact isCandidateAt_of_reduce_diagnosticLog diagnostic standard isNode notCandidate value
  rcases exists_parts_of_reduce notCandidate value with ⟨parts, _, isAfter⟩
  have same : after.label? = tree.label? := by
    rw [isAfter]
    rfl
  rcases isNode with ⟨node, rfl⟩
  by_cases removed : node.label.removedBy? = some pass.kind
  case neg =>
    refine isCandidateAt_of_label? diagnostic same fun label isLabel => ?_
    rw [Node.label?_skeleton, Option.some.injEq] at isLabel
    exact isLabel ▸ removed
  rw [Pass.isCandidateAt_skeleton] at notCandidate
  by_cases block : pass.kind = .block
  · have isBlock : node.label = .block := by
      cases label : node.label <;> simp_all [Label.removedBy?]
    rcases settled_block block isBlock notCandidate with ⟨settled, whole⟩
    rw [eq_of_settled settled whole value]
    exact settled.isCandidateAt
  by_cases binary : pass.kind = .binary
  · obtain ⟨op, isBinary⟩ : ∃ op, node.label = .binary op := by
      cases label : node.label <;> simp_all [Label.removedBy?]
    have settled := settled_of_binary binary isBinary notCandidate
    rw [eq_of_settled settled (swept_of_ne_block pass block _) value]
    exact settled.isCandidateAt
  have matched := Pass.matchesNode_of_removedBy? removed binary block
  have shielded : pass.shields node = true := by
    simpa [Pass.isCandidate, matched] using notCandidate
  have guards : pass.kind.guardsMarkers = true := by
    simp only [Pass.shields, Bool.and_eq_true] at shielded
    exact shielded.1
  have spelled : ∀ marker ∈ pass.options.markers, Text.IsMarker marker.toList := by
    rw [standard]
    exact ReduceOptions.isMarker_of_mem_standard
  exact pass.isCandidateAt_of_shieldsAt (shieldsAt_of_reduce spelled guards node.skeleton after mode
    ⟨node, rfl⟩ ((pass.shieldsAt_skeleton node).trans shielded) value)

/-! ## What a batch leaves is settled -/

theorem settled_iff_candidatesIn : tree.Settled pass ↔ tree.candidatesIn pass = 0 := by
  simp [Settled, candidatesIn, List.countP_eq_zero]

/-- What a candidate is simplified to is settled. -/
theorem settled_of_replacement (final : pass.kind.revisits = false)
    (replaced : pass.replacement tree = some after) : after.Settled pass := by
  unfold Pass.replacement at replaced
  split at replaced
  · next cast => simp [cast, RemovalKind.revisits] at final
  · next paren => simp [paren, RemovalKind.revisits] at final
  · next op _ binary =>
      rcases Option.some.inj replaced with rfl
      refine Pass.settled_binary binary ?_
      simp [Pass.isCandidate, Pass.matchesNode, Pass.matchesExpr, binary, BinaryOp.canonical]
  · next block =>
      rcases Option.some.inj replaced with rfl
      have sweeps : pass.sweepsAt .entry (node (some .block) []) = true := by
        simp [Pass.sweepsAt, block]
      exact settled_iff_candidatesIn.mpr (candidatesIn_of_sweepsAt pass sweeps)
  · cases replaced

/-- The empty statement is no candidate of any kind. -/
theorem settled_nothing (standard : pass.options = .standard) : nothing.Settled pass := by
  have notCandidate : pass.isCandidate (.stmt Stmt.nothing) = false := by
    cases kind : pass.kind <;>
      simp [Pass.isCandidate, Pass.matchesNode, Pass.matchesStmt, kind, Stmt.nothing,
        StmtForm.isBlock, ReduceOptions.beginsDiagnostic, standard, ReduceOptions.standard,
        Node.chars, Stmt.chars, Comment.leading, Layout.outermost]
  rw [nothing, settled_node_iff]
  exact ⟨(pass.isCandidateAt_skeleton (.stmt Stmt.nothing)).trans notCandidate, by simp⟩

/-- A selected node is replaced for good, or what is uncovered is rebuilt. -/
theorem replaced_of_reduce_all (candidate : pass.isCandidateAt tree = true)
    (value : (tree.reduce pass .all).value = some after) :
    (pass.kind.revisits = false ∧ pass.replacement tree = some after) ∨
      ∃ inner ∈ tree.descendants, (inner.reduce pass .all).value = some after := by
  rw [reduce_of_isCandidateAt pass _ candidate (by simp [Mode.isBatch])] at value
  simp only [Mode.selectsNext, Mode.after, reduceSelected] at value
  cases unwraps : pass.kind.revisits with
  | false =>
      left
      simpa [Pass.revisited?, unwraps] using value
  | true =>
      right
      rcases exists_uncovered_of_isCandidateAt pass unwraps candidate with
        ⟨inner, isInside, uncovered, _⟩
      rw [uncovered] at value
      exact ⟨inner, isInside, value⟩

theorem guards_of_shieldsAt (shielded : pass.shieldsAt tree = true) :
    pass.kind.guardsMarkers = true := by
  simp only [Pass.shieldsAt, Option.any_eq_true, Pass.shields, Bool.and_eq_true] at shielded
  rcases shielded with ⟨_, _, guards, _⟩
  exact guards

/-- A batch leaves no candidates, unless it is assignments that are removed. -/
theorem settled_of_reduce_all (standard : pass.options = .standard)
    (notAssignment : pass.kind ≠ .assignment) (isNode : tree.IsNode)
    (value : (tree.reduce pass .all).value = some after) : after.Settled pass := by
  induction tree using Skeleton.induct_descendants generalizing after with
  | node tree ih =>
      cases candidate : pass.isCandidateAt tree with
      | true =>
          rcases replaced_of_reduce_all candidate value with
            ⟨final, replaced⟩ | ⟨inner, isInside, value⟩
          · exact settled_of_replacement final replaced
          · exact ih inner isInside
              (isNode.of_mem_selfAndDescendants (List.mem_cons_of_mem _ isInside)) value
      | false =>
          have own := isCandidateAt_of_reduce standard isNode candidate value
          rcases exists_parts_of_reduce candidate value with ⟨parts, ofParts, rfl⟩
          refine settled_node_iff.mpr ⟨own, ?_⟩
          intro part member
          rcases exists_origin_of_mem_reduceParts ofParts member with ⟨before, isPart, origin⟩
          cases origin with
          | rebuilt value =>
              exact ih before.2 (mem_descendants_of_mem_parts isPart) (isNode.of_mem_parts isPart)
                value
          | emptied _ => exact settled_nothing standard
          | kept shielded isOperand _ =>
              have guards := guards_of_shieldsAt shielded
              rcases isNode with ⟨node, rfl⟩
              rcases part with ⟨slot, operand⟩
              obtain rfl : slot = .operand := isOperand
              rcases node.exists_required_of_operand isPart with ⟨expr, _, rfl⟩
              exact Pass.settled_of_matchesExpr
                (pass.matchesExpr_of_guardsMarkers guards notAssignment) expr

/-! ## What a batch leaves stays as it is -/

/-- Parts stay as they are if each of them fills its slot with itself. -/
theorem reduceParts_all_of_fill (notBlock : pass.kind ≠ .block) (shielded : Bool)
    (parts : List (Slot × Skeleton))
    (stays : ∀ part ∈ parts,
      part.1.fill shielded part.2 (part.2.reduce pass .all).value = some [part]) :
    (reduceParts pass shielded parts .all).value = some parts := by
  induction parts with
  | nil => simp
  | cons part rest ih =>
      rcases part with ⟨slot, tree⟩
      have ofRest := ih fun part member => stays part (List.mem_cons_of_mem _ member)
      have ofTree := stays (slot, tree) (by simp)
      have notSwept := sweepsAt_eq_false pass notBlock slot tree
      rw [reduceParts_cons_apply pass shielded rest .all notSwept]
      simp only at ofTree
      simp [Mode.after, ofTree, ofRest]

/-- Once assignments are removed, removing them again keeps what was kept before. -/
theorem reduce_all_of_assignment (standard : pass.options = .standard)
    (assignment : pass.kind = .assignment) (isNode : tree.IsNode)
    (value : (tree.reduce pass .all).value = some after) :
    (after.reduce pass .all).value = some after := by
  have notBlock : pass.kind ≠ .block := by simp [assignment]
  induction tree using Skeleton.induct_descendants generalizing after with
  | node tree ih =>
      cases candidate : pass.isCandidateAt tree with
      | true =>
          rcases replaced_of_reduce_all candidate value with
            ⟨_, replaced⟩ | ⟨inner, isInside, value⟩
          · simp [Pass.replacement, assignment] at replaced
          · exact ih inner isInside
              (isNode.of_mem_selfAndDescendants (List.mem_cons_of_mem _ isInside)) value
      | false =>
          have own := isCandidateAt_of_reduce standard isNode candidate value
          have spelled : ∀ marker ∈ pass.options.markers, Text.IsMarker marker.toList := by
            rw [standard]
            exact ReduceOptions.isMarker_of_mem_standard
          have still : pass.shieldsAt tree = true → pass.shieldsAt after = true := fun shielded =>
            shieldsAt_of_reduce spelled (guards_of_shieldsAt shielded) tree after .all isNode
              shielded value
          rcases exists_parts_of_reduce candidate value with ⟨parts, ofParts, rfl⟩
          have stays : ∀ part ∈ parts,
              part.1.fill (pass.shieldsAt (node tree.label? parts)) part.2
                (part.2.reduce pass .all).value = some [part] := by
            intro part member
            rcases exists_origin_of_mem_reduceParts ofParts member with ⟨before, isPart, origin⟩
            cases origin with
            | rebuilt value =>
                rw [ih before.2 (mem_descendants_of_mem_parts isPart)
                  (isNode.of_mem_parts isPart) value]
                rfl
            | emptied _ =>
                rw [(settled_nothing standard).reduce_value, swept_of_ne_block pass notBlock]
                rfl
            | kept shielded isOperand gone =>
                -- The operand is deleted again, and the node that keeps it is still shielded.
                rw [gone, still shielded]
                rcases part with ⟨slot, operand⟩
                obtain rfl : slot = .operand := isOperand
                rfl
          rw [reduce_of_not_isCandidateAt pass _ own, reduceKept_apply]
          simp [reduceParts_all_of_fill notBlock _ parts stays]

/-- What a batch leaves is left by a second batch, unless it is blocks that are removed. -/
theorem reduce_all_of_reduce_all (standard : pass.options = .standard)
    (notBlock : pass.kind ≠ .block) (isNode : tree.IsNode)
    (value : (tree.reduce pass .all).value = some after) :
    (after.reduce pass .all).value = some after := by
  by_cases assignment : pass.kind = .assignment
  · exact reduce_all_of_assignment standard assignment isNode value
  · have settled := settled_of_reduce_all standard assignment isNode value
    rw [settled.reduce_value, swept_of_ne_block pass notBlock]

/-! ## Programs -/

/-- The parts that a batch leaves of a program are what it leaves of its members. -/
theorem exists_member_of_mem_parts (pass : Pass) (program : Program) {part : Slot × Skeleton}
    (member : part ∈ (pass.apply program .all).value.skeleton.parts) :
    ∃ before : Skeleton, before.IsNode ∧ (before.reduce pass .all).value = some part.2 := by
  have ofParts := congrArg Counted.value (pass.reduceParts_skeleton program .all)
  rcases exists_origin_of_mem_reduceParts ofParts member with ⟨before, isPart, origin⟩
  rcases Member.exists_of_mem_entries isPart with ⟨declaration, _, rfl⟩
  cases origin with
  | rebuilt value => exact ⟨declaration.skeleton, ⟨.member declaration, rfl⟩, value⟩
  | emptied isBody => cases isBody
  | kept _ isOperand _ => cases isOperand

end Skeleton

namespace Pass

variable (pass : Pass)

/-- A batch leaves a program without candidates, unless it is assignments that are removed. -/
theorem settled_apply_all (standard : pass.options = .standard)
    (notAssignment : pass.kind ≠ .assignment) (program : Program) :
    (pass.apply program .all).value.skeleton.Settled pass := by
  have ofParts : ∀ part ∈ (pass.apply program .all).value.skeleton.parts,
      part.2.Settled pass := by
    intro part member
    rcases Skeleton.exists_member_of_mem_parts pass program member with ⟨before, isNode, rebuilt⟩
    exact Skeleton.settled_of_reduce_all standard notAssignment isNode rebuilt
  exact Skeleton.settled_node_iff.mpr ⟨pass.isCandidateAt_node_none _, ofParts⟩

/-- A second batch leaves a program as it is, unless it is blocks that are removed. -/
theorem reduce_skeleton_apply_all (standard : pass.options = .standard)
    (notBlock : pass.kind ≠ .block) (program : Program) :
    ((pass.apply program .all).value.skeleton.reduce pass .all).value =
      some (pass.apply program .all).value.skeleton := by
  have notCandidate : pass.isCandidateAt (pass.apply program .all).value.skeleton = false :=
    pass.isCandidateAt_node_none _
  have stays : ∀ part ∈ (pass.apply program .all).value.skeleton.parts,
      part.1.fill (pass.shieldsAt (pass.apply program .all).value.skeleton) part.2
        (part.2.reduce pass .all).value = some [part] := by
    intro part member
    rcases Skeleton.exists_member_of_mem_parts pass program member with ⟨before, isNode, rebuilt⟩
    rw [Skeleton.reduce_all_of_reduce_all standard notBlock isNode rebuilt]
    rfl
  have parts := Skeleton.reduceParts_all_of_fill notBlock
    (pass.shieldsAt (pass.apply program .all).value.skeleton) _ stays
  rw [Skeleton.reduce_of_not_isCandidateAt pass _ notCandidate, Skeleton.reduceKept_apply]
  simp only [parts]
  rfl

/--
A batch with the standard options reaches a fixed point.  A second one finds no
candidates, except for assignments that a node with a marker cannot do without;
and it changes nothing, except that emptied blocks are swept out of lists.
-/
theorem apply_all_apply_all (kind : RemovalKind) (program : Program) :
    (kind ≠ .assignment →
      (apply ⟨kind, .standard⟩ (apply ⟨kind, .standard⟩ program .all).value .all).candidates = 0) ∧
    (kind ≠ .block →
      (apply ⟨kind, .standard⟩ (apply ⟨kind, .standard⟩ program .all).value .all).value =
        (apply ⟨kind, .standard⟩ program .all).value) := by
  constructor
  · intro notAssignment
    have settled := settled_apply_all ⟨kind, .standard⟩ rfl notAssignment program
    have none := settled.reduce_all_candidates
    rw [apply_skeleton] at none
    exact none
  · intro notBlock
    have stays := reduce_skeleton_apply_all ⟨kind, .standard⟩ rfl notBlock program
    rw [apply_skeleton, Option.some.injEq] at stays
    have read := congrArg Program.ofSkeleton? stays
    rw [ofSkeleton?_apply, ofSkeleton?_apply, Option.some.injEq] at read
    exact read

/-- The literal is gone at once, and the assignment that a loop counter needs is kept again. -/
theorem apply_all_apply_all_counter :
    let literal := apply ⟨.literal, .standard⟩ counterAssignment .all
    let assignment := apply ⟨.assignment, .standard⟩ counterAssignment .all
    literal.candidates = 1 ∧
    (apply ⟨.literal, .standard⟩ literal.value .all).candidates = 0 ∧
    (apply ⟨.literal, .standard⟩ literal.value .all).value = literal.value ∧
    (apply ⟨.assignment, .standard⟩ assignment.value .all).value = assignment.value := by
  intro literal assignment
  have once : literal.candidates = 1 := by decide
  rcases apply_all_apply_all .literal counterAssignment with ⟨settled, stays⟩
  rcases apply_all_apply_all .assignment counterAssignment with ⟨-, kept⟩
  exact ⟨once, settled (by decide), stays (by decide), kept (by decide)⟩

end Pass

end Whittle

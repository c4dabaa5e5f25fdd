import Whittle.Proofs.CandidateCounts
import Whittle.Proofs.FixedPoint

/-!
# Simplified binary expressions

A binary expression counts as simplified if it is written as the two constants
with its operator between them.  The test looks at the text alone, and names may
be spelled in any way, with spaces and signs in them.  Still nothing else passes:
the operator is written between spaces, so the operands are written without any,
and what is written with digits alone is an integer or a name.

So a batch leaves every binary expression that is inside no other, as it was or
simplified, and none besides.
-/

namespace Whittle

/-! ## What is written with digits alone -/

namespace Decimal

theorem isDigit_of_mem_digitsOf {n : Nat} {c : Char} (member : c ∈ digitsOf n) :
    c.isDigit = true :=
  Nat.isDigit_of_mem_toDigits (by decide) (by decide) member

theorem digitsOf_injective : Function.Injective digitsOf := by
  intro first second same
  have read := congrArg (Nat.ofDigitChars 10 · 0) same
  simpa [digitsOf] using read

/-- No two integers are written in the same way. -/
theorem ofInt_injective : Function.Injective ofInt := by
  intro first second same
  have sign (n : Nat) : '-' ∉ digitsOf n := by
    intro member
    have digit := isDigit_of_mem_digitsOf member
    revert digit
    decide
  unfold ofInt at same
  split at same <;> split at same
  · have digits := digitsOf_injective (List.cons.inj same).2
    omega
  · exact (sign _ (same ▸ List.mem_cons_self ..)).elim
  · exact (sign _ (same ▸ List.mem_cons_self ..)).elim
  · have digits := digitsOf_injective same
    omega

namespace NumberFormat

theorem point_mem_positional (digits : List Char) (whole : Int) :
    '.' ∈ positional digits whole := by
  unfold positional
  split
  · simp
  · dsimp only
    split <;> simp

theorem exponent_mem_scientific {digits : List Char} (filled : digits ≠ []) (exponent : Int) :
    'e' ∈ scientific digits exponent := by
  unfold scientific
  split <;> simp_all

/-- A number with a point is never written with digits alone. -/
theorem exists_not_isDigit_mem_write (x : Binary64) :
    ∃ c ∈ literalFormat.write x, c.isDigit = false := by
  have ofSize {size : List Char} (found : ∃ c ∈ size, c.isDigit = false) :
      ∃ c ∈ (if x.isNegative then '-' :: size else size), c.isDigit = false := by
    rcases found with ⟨c, member, notDigit⟩
    refine ⟨c, ?_, notDigit⟩
    split
    · exact List.mem_cons_of_mem _ member
    · exact member
  unfold write
  split
  · exact ⟨'N', by decide, by decide⟩
  · refine ofSize ?_
    split
    · exact ⟨'i', by decide, by decide⟩
    · split
      · exact ⟨'.', by decide, by decide⟩
      · unfold ofPositive
        dsimp only
        split
        · exact ⟨'.', point_mem_positional _ _, by decide⟩
        · exact ⟨'e', exponent_mem_scientific Nat.toDigits_ne_nil _, by decide⟩

end NumberFormat

end Decimal

theorem Literal.eq_int_of_digits {value : Literal}
    (digits : ∀ c ∈ value.chars, c.isDigit = true) : ∃ number, value = .int number := by
  have impossible {c : Char} (member : c ∈ value.chars) (notDigit : c.isDigit = false) : False :=
    Bool.false_ne_true (notDigit.symm.trans (digits c member))
  cases value with
  | int number => exact ⟨number, rfl⟩
  | long number =>
      exact (impossible (List.mem_append_right _ (List.mem_singleton_self 'L')) rfl).elim
  | double number =>
      rcases Decimal.NumberFormat.exists_not_isDigit_mem_write number with ⟨c, member, notDigit⟩
      exact (impossible member notDigit).elim
  | bool truth =>
      cases truth with
      | false => exact (impossible (c := 'f') (by decide) rfl).elim
      | true => exact (impossible (c := 't') (by decide) rfl).elim
  | char c => exact (impossible (List.mem_cons_self ..) rfl).elim
  | string text => exact (impossible (List.mem_cons_self ..) rfl).elim
  | null => exact (impossible (c := 'n') (by decide) rfl).elim

namespace Expr

/-- What is written with digits alone is an integer or a name. -/
theorem eq_int_or_ident_of_digits {expr : Expr} (digits : ∀ c ∈ expr.chars, c.isDigit = true) :
    (∃ value, expr = .literal (.int value)) ∨ ∃ name, expr = .ident name := by
  have impossible (c : Char) (member : c ∈ expr.chars) (notDigit : c.isDigit = false) : False :=
    Bool.false_ne_true (notDigit.symm.trans (digits c member))
  cases expr with
  | literal value =>
      rcases Literal.eq_int_of_digits digits with ⟨number, rfl⟩
      exact .inl ⟨number, rfl⟩
  | ident name => exact .inr ⟨name, rfl⟩
  | unary op operand =>
      have sign : ∃ c ∈ op.token.toList, c.isDigit = false := by
        cases op <;> exact ⟨_, List.mem_cons_self .., by decide⟩
      rcases sign with ⟨c, member, notDigit⟩
      refine (impossible c ?_ notDigit).elim
      rw [chars]
      split <;> simp [member]
  | binary op lhs rhs => exact (impossible ' ' (by simp [chars, between]) rfl).elim
  | assign op target value => exact (impossible ' ' (by simp [chars, between]) rfl).elim
  | cast ty operand => exact (impossible '(' (by simp [chars]) rfl).elim
  | paren inner => exact (impossible '(' (by simp [chars]) rfl).elim
  | invoke callee args => exact (impossible '(' (by simp [chars]) rfl).elim
  | member target name => exact (impossible '.' (by simp [chars]) rfl).elim
  | conditional cond thenValue elseValue =>
      exact (impossible ' ' (by simp [chars, between]) rfl).elim

/-- Just the integer itself and the name that is spelled like it are written as the integer. -/
theorem chars_eq_digits_iff {expr : Expr} (value : Int64) {name : String}
    (spelled : name.toList = (Literal.int value).chars)
    (digits : name.toList.all Char.isDigit = true) :
    expr.chars = name.toList ↔ expr = .literal (.int value) ∨ expr = .ident name := by
  constructor
  · intro same
    rw [← same] at digits
    rcases eq_int_or_ident_of_digits (List.all_eq_true.mp digits) with ⟨number, rfl⟩ | ⟨other, rfl⟩
    · have written : Decimal.ofInt number.toInt = Decimal.ofInt value.toInt := same.trans spelled
      rw [Int64.toInt_inj.mp (Decimal.ofInt_injective written)]
      exact .inl rfl
    · rw [String.toList_inj.mp same]
      exact .inr rfl
  · rintro (rfl | rfl)
    · exact spelled.symm
    · rfl

end Expr

/-! ## The text of a simplified expression -/

/-- Whether the operands are the two constants, or names that are spelled like them. -/
def AreSimplified (lhs rhs : Expr) : Prop :=
  (lhs = .literal (.int 15) ∨ lhs = .ident "15") ∧ (rhs = .literal (.int 4) ∨ rhs = .ident "4")

/-- Two texts that are cut at their first separator are equal if the pieces are. -/
theorem Text.append_cons_inj {separator : Char} {first first' rest rest' : List Char}
    (absent : separator ∉ first) (absent' : separator ∉ first') :
    first ++ separator :: rest = first' ++ separator :: rest' ↔
      first = first' ∧ rest = rest' := by
  induction first generalizing first' with
  | nil =>
      cases first' with
      | nil => simp
      | cons c first' => simp_all
  | cons c first ih =>
      cases first' with
      | nil => simp_all [eq_comm]
      | cons c' first' =>
          have ofRest := @ih first' (by simp_all) (by simp_all)
          simp [ofRest, and_assoc]

/-- The text of a simplified expression is that of no others than these. -/
theorem Expr.chars_eq_canonical_iff (op : BinaryOp) {lhs rhs : Expr} :
    (Expr.binary op lhs rhs).chars = op.canonical.chars ↔ AreSimplified lhs rhs := by
  have left : lhs.chars = "15".toList ↔ _ := chars_eq_digits_iff 15 rfl (by decide)
  have right : rhs.chars = "4".toList ↔ _ := chars_eq_digits_iff 4 rfl (by decide)
  rw [AreSimplified, ← left, ← right]
  have written : op.canonical.chars = between "15".toList op.token "4".toList := rfl
  rw [chars, written]
  constructor
  · intro same
    rcases Pass.operands_of_canonical same with ⟨noneLeft, noneRight⟩
    simp only [between, List.append_assoc, List.cons_append] at same
    rw [Text.append_cons_inj noneLeft (by decide)] at same
    simpa using same
  · rintro ⟨ofLeft, ofRight⟩
    rw [ofLeft, ofRight]

/-- Inside of a simplified expression are its two operands and nothing else. -/
theorem AreSimplified.inside {lhs rhs : Expr} (simplified : AreSimplified lhs rhs) (op : BinaryOp) :
    (Node.expr (.binary op lhs rhs)).inside = [.expr lhs, .expr rhs] := by
  rcases simplified with ⟨rfl | rfl, rfl | rfl⟩ <;> rfl

theorem AreSimplified.kind_ne {lhs rhs : Expr} (simplified : AreSimplified lhs rhs)
    (op : BinaryOp) {node : Node} (member : node ∈ (Node.expr (.binary op lhs rhs)).inside) :
    node.kind ≠ .binary := by
  rw [simplified.inside] at member
  rcases simplified with ⟨rfl | rfl, rfl | rfl⟩ <;> simp at member <;>
    rcases member with rfl | rfl <;> simp [Node.kind, Node.label, Expr.label, Label.kind]

theorem Node.exists_of_kind_binary {node : Node} (isBinary : node.kind = .binary) :
    ∃ op lhs rhs, node = .expr (.binary op lhs rhs) := by
  obtain ⟨op, isLabel⟩ : ∃ op, node.label = .binary op := by
    cases own : node.label <;> simp_all [Node.kind, Label.kind]
  exact ⟨op, exists_of_label_binary isLabel⟩

theorem areSimplified_canonical :
    AreSimplified (.literal (.int canonicalLeft)) (.literal (.int canonicalRight)) :=
  ⟨.inl rfl, .inl rfl⟩

namespace Pass

variable {pass : Pass}

/-- The test of the text is exact: just the expressions of this form are left alone. -/
theorem isCandidate_binary_iff (binary : pass.kind = .binary) {op : BinaryOp} {lhs rhs : Expr} :
    pass.isCandidate (.expr (.binary op lhs rhs)) = false ↔ AreSimplified lhs rhs := by
  rw [← Expr.chars_eq_canonical_iff op]
  simp [isCandidate, matchesNode, matchesExpr, binary, shields, RemovalKind.guardsMarkers]

/-- What a batch leaves in the place of a node that is a binary expression. -/
def simplified (pass : Pass) : Node → Node
  | .expr (.binary op lhs rhs) =>
      if pass.isCandidate (.expr (.binary op lhs rhs)) then .expr op.canonical
      else .expr (.binary op lhs rhs)
  | node => node

end Pass

/-! ## What a batch leaves of a skeleton -/

namespace Skeleton

/-- Whether the root is a binary expression. -/
def isBinary (tree : Skeleton) : Bool :=
  tree.label?.any fun label => label.kind == .binary

theorem isBinary_skeleton (node : Node) : node.skeleton.isBinary = (node.kind == .binary) := by
  rw [isBinary, Node.label?_skeleton]
  rfl

mutual

/-- The binary expressions in a skeleton that are inside no other. -/
def outermostBinaries : Skeleton → List Skeleton
  | .node label parts =>
      if isBinary (.node label parts) then [.node label parts]
      else outermostBinariesInParts parts

/-- The binary expressions in a list of parts that are inside no other. -/
def outermostBinariesInParts : List (Slot × Skeleton) → List Skeleton
  | [] => []
  | (_, tree) :: rest => tree.outermostBinaries ++ outermostBinariesInParts rest

end

variable {pass : Pass}

/-- What a batch leaves in the place of a binary expression. -/
def simplified (pass : Pass) (tree : Skeleton) : Skeleton :=
  if pass.isCandidateAt tree then (pass.replacement tree).getD tree else tree

/-- A batch leaves the binary expressions that are inside no other, and simplifies them. -/
def Simplifies (pass : Pass) (tree : Skeleton) : Prop :=
  ∃ after, (tree.reduce pass .all).value = some after ∧
    after.selfAndDescendants.filter isBinary = tree.outermostBinaries.map (simplified pass)

theorem exists_reduceParts_of_simplifies (binary : pass.kind = .binary) (shielded : Bool)
    {parts : List (Slot × Skeleton)} (ofParts : ∀ part ∈ parts, part.2.Simplifies pass) :
    ∃ parts', (reduceParts pass shielded parts .all).value = some parts' ∧
      (inParts parts').filter isBinary =
        (outermostBinariesInParts parts).map (simplified pass) := by
  induction parts with
  | nil => exact ⟨[], by simp, rfl⟩
  | cons part rest ih =>
      rcases part with ⟨slot, tree⟩
      rcases List.forall_mem_cons.mp ofParts with ⟨⟨after, value, ofTree⟩, ofOthers⟩
      rcases ih ofOthers with ⟨rest', ofRest, left⟩
      have kept := sweepsAt_eq_false pass (by simp [binary]) slot tree
      simp only at value ofTree
      refine ⟨(slot, after) :: rest', ?_, ?_⟩
      · rw [reduceParts_cons_apply pass shielded rest .all kept]
        simp [Mode.after, value, ofRest]
      · have split : inParts ((slot, after) :: rest') = after.selfAndDescendants ++ inParts rest' :=
          rfl
        rw [split, List.filter_append, ofTree, left, outermostBinariesInParts, List.map_append]

theorem filter_isBinary_of_simplified {lhs rhs : Expr} (simplified : AreSimplified lhs rhs)
    (op : BinaryOp) :
    (Expr.binary op lhs rhs).skeleton.selfAndDescendants.filter isBinary =
      [(Expr.binary op lhs rhs).skeleton] := by
  rcases simplified with ⟨rfl | rfl, rfl | rfl⟩ <;> rfl

/-- A binary expression is simplified by a batch, or it is simplified already. -/
theorem simplifies_binary (binary : pass.kind = .binary) (op : BinaryOp) (lhs rhs : Expr) :
    (Expr.binary op lhs rhs).skeleton.Simplifies pass := by
  have same : pass.isCandidateAt (Expr.binary op lhs rhs).skeleton =
      pass.isCandidate (.expr (.binary op lhs rhs)) :=
    pass.isCandidateAt_skeleton (.expr (.binary op lhs rhs))
  have outermost : (Expr.binary op lhs rhs).skeleton.outermostBinaries =
      [(Expr.binary op lhs rhs).skeleton] := rfl
  rw [Simplifies, outermost, List.map_singleton, simplified]
  cases candidate : pass.isCandidate (.expr (.binary op lhs rhs)) with
  | false =>
      have already := (Pass.isCandidate_binary_iff binary).mp candidate
      have settled := Pass.settled_binary binary candidate
      refine ⟨(Expr.binary op lhs rhs).skeleton, ?_, ?_⟩
      · rw [settled.reduce_value, swept_of_ne_block pass (by simp [binary])]
      · rw [filter_isBinary_of_simplified already, same, candidate]
        rfl
  | true =>
      have replaced : pass.replacement (Expr.binary op lhs rhs).skeleton =
          some op.canonical.skeleton := by
        simp [Pass.replacement, binary, Expr.skeleton]
      refine ⟨op.canonical.skeleton, ?_, ?_⟩
      · rw [reduce_of_isCandidateAt pass _ (same.trans candidate) (by simp [Mode.isBatch])]
        simp [Mode.selectsNext, reduceSelected, Pass.revisited?, binary, RemovalKind.revisits,
          replaced]
      · rw [BinaryOp.canonical, filter_isBinary_of_simplified areSimplified_canonical, same,
          candidate, replaced]
        rfl

theorem simplifies_of_isNode (binary : pass.kind = .binary) {tree : Skeleton}
    (isNode : tree.IsNode) : tree.Simplifies pass := by
  induction tree using Skeleton.induct with
  | node label parts ih =>
      cases isOperator : isBinary (node label parts) with
      | true =>
          rcases isNode with ⟨head, isHead⟩
          rw [← isHead, isBinary_skeleton, beq_iff_eq] at isOperator
          rcases Node.exists_of_kind_binary isOperator with ⟨op, lhs, rhs, rfl⟩
          rw [← isHead]
          exact simplifies_binary binary op lhs rhs
      | false =>
          have other : pass.isCandidateAt (node label parts) = false := by
            refine isCandidateAt_of_label? (by simp [binary]) rfl fun own isLabel removed => ?_
            rw [label?_node] at isLabel
            subst isLabel
            cases own <;> simp_all [isBinary, Label.removedBy?, Label.kind]
          rcases exists_reduceParts_of_simplifies binary (pass.shieldsAt (node label parts))
            fun part member => ih part member (isNode.of_mem_parts member) with
            ⟨parts', ofParts, left⟩
          refine ⟨node label parts', ?_, ?_⟩
          · rw [reduce_of_not_isCandidateAt pass _ other, reduceKept_apply]
            simp [ofParts]
          · have still : isBinary (node label parts') = false := isOperator
            rw [selfAndDescendants, List.filter_cons_of_neg (by simp [still]), outermostBinaries,
              isOperator]
            exact left

end Skeleton

/-! ## The walk and the skeleton -/

/-- Whether a node is a binary expression and none of those around it is one. -/
def isOutermostBinary (place : Node × List Node) : Bool :=
  place.1.kind == .binary && place.2.all fun node => node.kind != .binary

namespace Outline

mutual

/-- The binary expressions that a walk meets first are those of the skeleton. -/
theorem Mirrors.outermostBinaries (around : List Node) :
    (outline : Outline) → (tree : Skeleton) → outline.Mirrors tree →
      ((outline.nested around).filter isOutermostBinary).map (fun place => place.1.skeleton) =
        if around.all fun node => node.kind != .binary then tree.outermostBinaries else []
  | .node head children, .node label parts, mirrors => by
      have inside := MirrorParts.outermostBinaries (head :: around) children parts mirrors.2
      have alike : Skeleton.isBinary (.node label parts) = (head.kind == .binary) := by
        rw [← mirrors.1, Skeleton.isBinary_skeleton]
      simp only [List.all_cons, bne] at inside
      simp only [nested, List.filter_cons, isOutermostBinary, Skeleton.outermostBinaries, alike,
        bne]
      by_cases isBinary : (head.kind == .binary) = true <;>
        by_cases isOutside : (around.all fun node => !node.kind == .binary) = true <;>
          simp only [isBinary, isOutside] at inside ⊢ <;> simpa [mirrors.1] using inside

theorem MirrorParts.outermostBinaries (around : List Node) :
    (outlines : List Outline) → (parts : List (Slot × Skeleton)) → MirrorParts outlines parts →
      ((nestedInList around outlines).filter isOutermostBinary).map
          (fun place => place.1.skeleton) =
        if around.all fun node => node.kind != .binary then
          Skeleton.outermostBinariesInParts parts
        else []
  | [], [], _ => by simp [nestedInList, Skeleton.outermostBinariesInParts]
  | outline :: rest, (_, tree) :: parts, mirror => by
      have head := Mirrors.outermostBinaries around outline tree mirror.1
      have tail := MirrorParts.outermostBinaries around rest parts mirror.2
      simp only [nestedInList, List.filter_append, List.map_append, head, tail,
        Skeleton.outermostBinariesInParts]
      split <;> rfl

end

end Outline

/-! ## Programs -/

/-- Binary expressions are told apart by their skeletons. -/
theorem Node.eq_of_map_skeleton {first second : List Node}
    (areBinary : ∀ node ∈ first, node.kind = .binary)
    (areBinary' : ∀ node ∈ second, node.kind = .binary)
    (same : first.map Node.skeleton = second.map Node.skeleton) : first = second := by
  have read {nodes : List Node} (areBinary : ∀ node ∈ nodes, node.kind = .binary) :
      (nodes.map Node.skeleton).map Skeleton.read? = nodes.map some := by
    rw [List.map_map]
    refine List.map_congr_left fun node member => ?_
    rcases exists_of_kind_binary (areBinary node member) with ⟨op, lhs, rhs, rfl⟩
    exact read?_skeleton _
  refine (List.map_inj_right fun _ _ => Option.some.inj).mp ?_
  rw [← read areBinary, same, read areBinary']

namespace Pass

variable {pass : Pass}

theorem simplified_skeleton (binary : pass.kind = .binary) {node : Node}
    (isBinary : node.kind = .binary) :
    (pass.simplified node).skeleton = node.skeleton.simplified pass := by
  rcases Node.exists_of_kind_binary isBinary with ⟨op, lhs, rhs, rfl⟩
  rw [simplified, Skeleton.simplified, pass.isCandidateAt_skeleton]
  split
  · simp [replacement, binary, Node.skeleton, Expr.skeleton]
  · rfl

theorem kind_simplified {node : Node} (isBinary : node.kind = .binary) :
    (pass.simplified node).kind = .binary := by
  rcases Node.exists_of_kind_binary isBinary with ⟨op, lhs, rhs, rfl⟩
  rw [simplified]
  split <;> rfl

/-- What takes the place of a binary expression is simplified. -/
theorem areSimplified_of_simplified (binary : pass.kind = .binary) {node : Node}
    (isBinary : node.kind = .binary) {op : BinaryOp} {lhs rhs : Expr}
    (left : pass.simplified node = .expr (.binary op lhs rhs)) : AreSimplified lhs rhs := by
  rcases Node.exists_of_kind_binary isBinary with ⟨op', lhs', rhs', rfl⟩
  rw [simplified] at left
  split at left
  · cases left
    exact areSimplified_canonical
  · next notCandidate =>
      cases left
      exact (isCandidate_binary_iff binary).mp (Bool.not_eq_true _ ▸ notCandidate)

theorem kind_of_outermost {place : Node × List Node} {places : List (Node × List Node)}
    (member : place ∈ places.filter isOutermostBinary) : place.1.kind = .binary := by
  have isOutermost := (List.mem_filter.mp member).2
  simp only [isOutermostBinary, Bool.and_eq_true, beq_iff_eq] at isOutermost
  exact isOutermost.1

/-- A batch leaves the binary expressions that are inside no other, and simplifies them. -/
theorem binaries_apply_all (binary : pass.kind = .binary) (program : Program) :
    (pass.apply program .all).value.nodes.filter (·.kind == .binary) =
      (program.nested.filter isOutermostBinary).map fun place => pass.simplified place.1 := by
  rcases Skeleton.exists_reduceParts_of_simplifies binary (pass.shieldsAt program.skeleton)
    (fun part member => Skeleton.simplifies_of_isNode binary (program.entry_of_mem_parts member).2)
    with ⟨parts, ofParts, left⟩
  rw [pass.reduceParts_skeleton, Option.some.injEq] at ofParts
  refine Node.eq_of_map_skeleton ?_ ?_ ?_
  · intro node member
    simpa using (List.mem_filter.mp member).2
  · intro node member
    rcases List.mem_map.mp member with ⟨place, isPlace, rfl⟩
    exact kind_simplified (kind_of_outermost isPlace)
  · have ofResult : ((pass.apply program .all).value.nodes.filter (·.kind == .binary)).map
        Node.skeleton = (pass.apply program .all).value.skeleton.descendants.filter
          Skeleton.isBinary := by
      rw [← Program.nodes_map_skeleton, List.filter_map]
      exact congrArg _ (List.filter_congr fun node _ => (Skeleton.isBinary_skeleton node).symm)
    have ofProgram : (program.nested.filter isOutermostBinary).map (fun place => place.1.skeleton) =
        Skeleton.outermostBinariesInParts (Member.entries program.members) :=
      Outline.MirrorParts.outermostBinaries [] _ _ (Member.outlines_mirror program.members)
    rw [ofResult, List.map_map]
    refine Eq.trans ?_ (List.map_congr_left fun place member =>
      (simplified_skeleton binary (kind_of_outermost member)).symm)
    have places : (program.nested.filter isOutermostBinary).map
        (fun place => place.1.skeleton.simplified pass) =
          ((program.nested.filter isOutermostBinary).map fun place => place.1.skeleton).map
            (Skeleton.simplified pass) := by
      rw [List.map_map]
      rfl
    rw [places, ofProgram]
    rw [← ofParts] at left
    exact left

/--
The test of the text is exact.  A binary expression is left alone if and only if
its operands are the two constants or names that are spelled like them, whatever
strings there are in it; then there is no other binary expression inside.  After
a batch all binary expressions are of this form.  They are, in their order, those
of the program before that are inside no other, each as it was or simplified with
its own operator.
-/
theorem simplification_is_exact (options : ReduceOptions) :
    let pass : Pass := ⟨.binary, options⟩
    (∀ op lhs rhs,
      (pass.isCandidate (.expr (.binary op lhs rhs)) = false ↔ AreSimplified lhs rhs) ∧
      (pass.isCandidate (.expr (.binary op lhs rhs)) = false →
        ∀ node ∈ (Node.expr (.binary op lhs rhs)).inside, node.kind ≠ .binary)) ∧
    ∀ program,
      (∀ op lhs rhs, .expr (.binary op lhs rhs) ∈ (pass.apply program .all).value.nodes →
        AreSimplified lhs rhs) ∧
      (pass.apply program .all).value.nodes.filter (·.kind == .binary) =
        (program.nested.filter isOutermostBinary).map fun place => pass.simplified place.1 := by
  intro pass
  have binary : pass.kind = .binary := rfl
  refine ⟨fun op lhs rhs => ⟨isCandidate_binary_iff binary, ?_⟩,
    fun program => ⟨?_, binaries_apply_all binary program⟩⟩
  · intro notCandidate node member
    exact ((isCandidate_binary_iff binary).mp notCandidate).kind_ne op member
  · intro op lhs rhs member
    have inResult : Node.expr (.binary op lhs rhs) ∈
        (pass.apply program .all).value.nodes.filter (·.kind == .binary) :=
      List.mem_filter.mpr ⟨member, rfl⟩
    rw [binaries_apply_all binary program, List.mem_map] at inResult
    rcases inResult with ⟨place, isPlace, left⟩
    exact areSimplified_of_simplified binary (kind_of_outermost isPlace) left

/-- A sum, and a shift of two names that are spelled like the constants. -/
def sumAndShift : Program :=
  ⟨[⟨[], .field ⟨[], "int", "x", some (.invoke (.ident "f")
    [.binary .add (.ident "15") (.paren (.binary .mul (.ident "4") (.ident "n"))),
      .paren (.binary .shl (.ident "15") (.ident "4"))])⟩⟩]⟩

/-- The sum is simplified together with the product in it, and the shift is left. -/
theorem simplification_is_exact_names :
    let pass : Pass := ⟨.binary, .standard⟩
    let shift : Node := .expr (.binary .shl (.ident "15") (.ident "4"))
    (pass.isCandidate shift = false ∧ ∀ node ∈ shift.inside, node.kind ≠ .binary) ∧
    (shift ∈ (pass.apply sumAndShift .all).value.nodes ∧
      AreSimplified (.ident "15") (.ident "4")) ∧
    (pass.apply sumAndShift .all).value.nodes.filter (·.kind == .binary) =
      (sumAndShift.nested.filter isOutermostBinary).map fun place => pass.simplified place.1 := by
  intro pass shift
  rcases simplification_is_exact .standard with ⟨guard, batch⟩
  rcases guard .shl (.ident "15") (.ident "4") with ⟨exact, inside⟩
  have left : pass.isCandidate shift = false := exact.mpr ⟨.inr rfl, .inr rfl⟩
  have stays : shift ∈ (pass.apply sumAndShift .all).value.nodes :=
    List.mem_of_getElem? (i := 7) rfl
  exact ⟨⟨left, inside left⟩, ⟨stays, (batch sumAndShift).1 _ _ _ stays⟩, (batch sumAndShift).2⟩

end Pass

end Whittle

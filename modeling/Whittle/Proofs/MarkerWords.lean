import Whittle.Proofs.NestedText

/-!
# The words of a text

A marker of letters that begins with an underscore cannot run over anything that
the syntax puts between the names of a program.  So the text of a node mentions
it only inside the words of a label: a name, a type, a modifier or a constant
that stands in the node or inside it.
-/

namespace Whittle

namespace Text

/-! ## Markers in a text -/

/-- Whether a character can be part of a marker. -/
def isMarkerChar (c : Char) : Bool :=
  c.isAlpha || c == '_'

/-- A text that names are searched for: letters after an underscore. -/
structure IsMarker (marker : List Char) : Prop where
  starts : marker.head? = some '_'
  spelled : ∀ c ∈ marker, isMarkerChar c = true

/-- A fixed text that no marker goes into: it ends one and starts none. -/
def isBarrier (fixed : List Char) : Bool :=
  fixed.head?.any (fun c => !isMarkerChar c) && !fixed.contains '_'

namespace IsMarker

variable {marker : List Char} (isMarker : IsMarker marker)

include isMarker

theorem exists_eq_cons : ∃ rest, marker = '_' :: rest := by
  cases marker with
  | nil => simpa using isMarker.starts
  | cons c rest =>
      obtain rfl : c = '_' := by simpa using isMarker.starts
      exact ⟨rest, rfl⟩

theorem occursIn_nil : occursIn marker [] = false := by
  rcases isMarker.exists_eq_cons with ⟨rest, rfl⟩
  rfl

/-- A marker does not begin in a text without underscores. -/
theorem occursIn_fixed_append {fixed : List Char} (noStart : fixed.contains '_' = false)
    (text : List Char) : occursIn marker (fixed ++ text) = occursIn marker text := by
  rcases isMarker.exists_eq_cons with ⟨rest, rfl⟩
  induction fixed with
  | nil => rfl
  | cons c fixed ih =>
      simp only [List.contains_cons, Bool.or_eq_false_iff] at noStart
      have other : ('_' == c) = false := noStart.1
      simp [occursIn, ih noStart.2, List.isPrefixOf, other]

theorem occursIn_fixed {fixed : List Char} (noStart : fixed.contains '_' = false) :
    occursIn marker fixed = false := by
  have alone := isMarker.occursIn_fixed_append noStart []
  rwa [List.append_nil, isMarker.occursIn_nil] at alone

theorem isPrefixOf_append_cons {c : Char} (other : isMarkerChar c = false)
    (text after : List Char) :
    marker.isPrefixOf (text ++ c :: after) = marker.isPrefixOf text := by
  have spelled := isMarker.spelled
  clear isMarker
  induction text generalizing marker with
  | nil =>
      cases marker with
      | nil => rfl
      | cons first rest =>
          have differs : (first == c) = false := by
            rw [beq_eq_false_iff_ne]
            rintro rfl
            simp [spelled first (List.mem_cons_self ..)] at other
          simp [List.isPrefixOf, differs]
  | cons next text ih =>
      cases marker with
      | nil => rfl
      | cons first rest =>
          have ofRest : rest.isPrefixOf (text ++ c :: after) = rest.isPrefixOf text :=
            ih fun c member => spelled c (List.mem_cons_of_mem _ member)
          simp [List.isPrefixOf, ofRest]

/-- No marker goes over a character that is none of its own. -/
theorem occursIn_append_cons {c : Char} (other : isMarkerChar c = false)
    (text after : List Char) :
    occursIn marker (text ++ c :: after) = (occursIn marker text || occursIn marker after) := by
  induction text with
  | nil =>
      have noStart : [c].contains '_' = false := by
        simp only [List.contains_cons, List.contains_nil, Bool.or_false, beq_eq_false_iff_ne]
        rintro rfl
        simp [isMarkerChar] at other
      rw [isMarker.occursIn_nil, List.nil_append, Bool.false_or]
      exact isMarker.occursIn_fixed_append noStart after
  | cons next text ih =>
      have start := isMarker.isPrefixOf_append_cons other (next :: text) after
      rw [List.cons_append] at start
      rw [List.cons_append, occursIn, start, ih, occursIn, Bool.or_assoc]

/-- No marker goes over a barrier. -/
theorem occursIn_append_barrier {fixed : List Char} (barrier : isBarrier fixed = true)
    (text after : List Char) :
    occursIn marker (text ++ fixed ++ after) =
      (occursIn marker text || occursIn marker after) := by
  cases fixed with
  | nil => simp [isBarrier] at barrier
  | cons c fixed =>
      simp only [isBarrier, List.head?_cons, Option.any_some, Bool.and_eq_true,
        Bool.not_eq_true', List.contains_cons, Bool.or_eq_false_iff] at barrier
      rw [List.append_assoc, List.cons_append, isMarker.occursIn_append_cons barrier.1,
        isMarker.occursIn_fixed_append barrier.2.2]

/-- Nothing is added by a barrier at the end of a text. -/
theorem occursIn_append_closing {fixed : List Char} (barrier : isBarrier fixed = true)
    (text : List Char) : occursIn marker (text ++ fixed) = occursIn marker text := by
  have alone := isMarker.occursIn_append_barrier barrier text []
  rwa [List.append_nil, isMarker.occursIn_nil, Bool.or_false] at alone

theorem occursIn_joinWith {separator : List Char} (barrier : isBarrier separator = true)
    (items : List (List Char)) :
    occursIn marker (joinWith separator items) = items.any (occursIn marker) := by
  induction items with
  | nil => exact isMarker.occursIn_nil
  | cons item rest ih =>
      cases rest with
      | nil => simp [joinWith]
      | cons next rest =>
          rw [joinWith, isMarker.occursIn_append_barrier barrier, ih]
          rfl

end IsMarker

end Text

open Text (IsMarker occursIn)

/-! ## Words of labels -/

namespace Label

/-- What a label spells out that the syntax does not fix. -/
@[simp]
def words : Label → List (List Char)
  | .classDecl modifiers name => modifiers.map String.toList ++ [name.toList]
  | .field modifiers ty name => modifiers.map String.toList ++ [ty.toList, name.toList]
  | .method modifiers result name params =>
      modifiers.map String.toList ++ [result.toList, name.toList] ++
        params.flatMap fun param => [param.ty.toList, param.name.toList]
  | .declare ty name => [ty.toList, name.toList]
  | .forLoop (some (ty, name)) => [ty.toList, name.toList]
  | .literal value => [value.chars]
  | .ident name => [name.toList]
  | .cast ty => [ty.toList]
  | .member name => [name.toList]
  | _ => []

/-- Whether one of the words of a label mentions the marker. -/
@[simp]
def spells (marker : List Char) (label : Label) : Bool :=
  label.words.any (occursIn marker)

end Label

namespace Skeleton

variable (marker : List Char)

mutual

/-- Whether a label in the skeleton spells the marker. -/
@[simp]
def spells : Skeleton → Bool
  | .node label parts => label.any (Label.spells marker) || partsSpell parts

/-- Whether a label in a list of parts spells the marker. -/
@[simp]
def partsSpell : List (Slot × Skeleton) → Bool
  | [] => false
  | (_, tree) :: rest => tree.spells || partsSpell rest

end

@[simp]
theorem partsSpell_append (first second : List (Slot × Skeleton)) :
    partsSpell marker (first ++ second) =
      (partsSpell marker first || partsSpell marker second) := by
  induction first with
  | nil => rfl
  | cons part rest ih => simp [ih, Bool.or_assoc]

mutual

theorem spells_eq_any : (tree : Skeleton) →
    tree.spells marker =
      tree.selfAndDescendants.any fun inner => inner.label?.any (Label.spells marker)
  | .node label parts => by
      simp [selfAndDescendants, descendants, partsSpell_eq_any parts]

theorem partsSpell_eq_any : (parts : List (Slot × Skeleton)) →
    partsSpell marker parts =
      (inParts parts).any fun inner => inner.label?.any (Label.spells marker)
  | [] => rfl
  | (_, tree) :: rest => by
      simp [inParts, spells_eq_any tree, partsSpell_eq_any rest, selfAndDescendants,
        Bool.or_assoc]

end

end Skeleton

/-! ## Expressions -/

section Words

variable {marker : List Char}

theorem Expr.occursIn_between (isMarker : IsMarker marker) (left right : List Char) {token : String}
    (fixed : token.toList.contains '_' = false) :
    occursIn marker (Expr.between left token right) =
      (occursIn marker left || occursIn marker right) := by
  have apart : Text.isMarkerChar ' ' = false := by decide
  rw [Expr.between, isMarker.occursIn_append_cons apart, isMarker.occursIn_append_cons apart,
    isMarker.occursIn_fixed fixed, Bool.or_false]

mutual

/-- The text of an expression mentions a marker where one of its labels does. -/
theorem Expr.occursIn_chars (isMarker : IsMarker marker) :
    (expr : Expr) → occursIn marker expr.chars = expr.skeleton.spells marker
  | .literal value => by
      simp [Expr.chars, Expr.skeleton]
  | .ident name => by
      simp [Expr.chars, Expr.skeleton]
  | .unary op operand => by
      have ofOperand := operand.occursIn_chars isMarker
      have fixed : op.token.toList.contains '_' = false := by cases op <;> decide
      have barrier : Text.isBarrier op.token.toList = true := by cases op <;> decide
      rw [Expr.chars]
      split
      · simp [isMarker.occursIn_append_closing barrier, ofOperand, Expr.skeleton, Skeleton.spells,
          Label.words]
      · rw [isMarker.occursIn_fixed_append fixed]
        simp [ofOperand, Expr.skeleton]
  | .binary op lhs rhs => by
      have fixed : op.token.toList.contains '_' = false := by cases op <;> decide
      rw [Expr.chars, Expr.occursIn_between isMarker _ _ fixed, lhs.occursIn_chars isMarker,
        rhs.occursIn_chars isMarker]
      simp [Expr.skeleton]
  | .assign op target value => by
      have fixed : op.token.toList.contains '_' = false := by cases op <;> decide
      rw [Expr.chars, Expr.occursIn_between isMarker _ _ fixed, target.occursIn_chars isMarker,
        value.occursIn_chars isMarker]
      simp [Expr.skeleton]
  | .cast ty operand => by
      have opening : ['('].contains '_' = false := by decide
      have closing : Text.isMarkerChar ')' = false := by decide
      have split : Expr.chars (.cast ty operand) =
          ['('] ++ (ty.toList ++ ')' :: operand.chars) := by
        simp [Expr.chars]
      rw [split, isMarker.occursIn_fixed_append opening, isMarker.occursIn_append_cons closing,
        operand.occursIn_chars isMarker]
      simp [Expr.skeleton]
  | .paren inner => by
      have opening : ['('].contains '_' = false := by decide
      have closing : Text.isBarrier [')'] = true := by decide
      have split : Expr.chars (.paren inner) = ['('] ++ (inner.chars ++ [')']) := by
        simp [Expr.chars]
      rw [split, isMarker.occursIn_fixed_append opening, isMarker.occursIn_append_closing closing,
        inner.occursIn_chars isMarker]
      simp [Expr.skeleton]
  | .invoke callee args => by
      have opening : Text.isBarrier ['('] = true := by decide
      have closing : Text.isBarrier [')'] = true := by decide
      have split : Expr.chars (.invoke callee args) =
          callee.chars ++ ['('] ++ Expr.commaChars args ++ [')'] := by
        simp [Expr.chars, Expr.commaChars]
      rw [split, isMarker.occursIn_append_closing closing, isMarker.occursIn_append_barrier opening,
        callee.occursIn_chars isMarker, Expr.commaChars, isMarker.occursIn_joinWith (by decide),
        Expr.occursIn_listChars isMarker .entry args]
      simp [Expr.skeleton]
  | .member target name => by
      have apart : Text.isMarkerChar '.' = false := by decide
      rw [Expr.chars, isMarker.occursIn_append_cons apart, target.occursIn_chars isMarker]
      simp [Expr.skeleton,
        Bool.or_comm]
  | .conditional cond thenValue elseValue => by
      rw [Expr.chars, Expr.occursIn_between isMarker _ _ (by decide),
        Expr.occursIn_between isMarker _ _ (by decide), cond.occursIn_chars isMarker,
        thenValue.occursIn_chars isMarker, elseValue.occursIn_chars isMarker]
      simp [Expr.skeleton,
        Bool.or_assoc]

theorem Expr.occursIn_listChars (isMarker : IsMarker marker) (slot : Slot) :
    (exprs : List Expr) →
      (Expr.listChars exprs).any (occursIn marker) =
        Skeleton.partsSpell marker (Expr.inSlot slot exprs)
  | [] => rfl
  | expr :: rest => by
      have head := expr.occursIn_chars isMarker
      have tail := Expr.occursIn_listChars isMarker slot rest
      simp [Expr.listChars, Expr.inSlot, head, tail]

end

theorem Expr.occursIn_commaChars (isMarker : IsMarker marker) (slot : Slot) (exprs : List Expr) :
    occursIn marker (Expr.commaChars exprs) =
      Skeleton.partsSpell marker (Expr.inSlot slot exprs) := by
  rw [Expr.commaChars, isMarker.occursIn_joinWith (by decide),
    Expr.occursIn_listChars isMarker slot]

/-! ## Statements -/

theorem Expr.occursIn_append_initChars (isMarker : IsMarker marker) (start : List Char)
    (init : Option Expr) :
    occursIn marker (start ++ Expr.initChars init) =
      (occursIn marker start ||
        Skeleton.partsSpell marker (Expr.optionInSlot .initial init)) := by
  cases init with
  | none => simp [Expr.initChars, Expr.optionInSlot]
  | some value =>
      rw [Expr.initChars, ← List.append_assoc, isMarker.occursIn_append_barrier (by decide),
        value.occursIn_chars isMarker]
      simp [Expr.optionInSlot]

theorem LocalDecl.occursIn_chars (isMarker : IsMarker marker) (decl : LocalDecl) :
    occursIn marker decl.chars =
      ((Label.declare decl.ty decl.name).spells marker ||
        Skeleton.partsSpell marker (Expr.optionInSlot .initial decl.init)) := by
  rw [LocalDecl.chars, Expr.occursIn_append_initChars isMarker,
    isMarker.occursIn_append_cons (by decide)]
  simp [Label.words]

theorem ForInit.occursIn_chars (isMarker : IsMarker marker) (init : Option ForInit) :
    occursIn marker (ForInit.chars init) =
      ((Label.forLoop (ForInit.declared? init)).spells marker ||
        Skeleton.partsSpell marker (ForInit.inSlots init)) := by
  match init with
  | none => exact isMarker.occursIn_nil
  | some (.declare decl) =>
      rw [ForInit.chars, decl.occursIn_chars isMarker]
      rfl
  | some (.run exprs) =>
      rw [ForInit.chars, Expr.occursIn_commaChars isMarker .start]
      rfl

theorem StmtForm.occursIn_forHeader (isMarker : IsMarker marker) (init : Option ForInit)
    (cond : Option Expr) (update : List Expr) :
    occursIn marker (StmtForm.forHeader init cond update) =
      ((Label.forLoop (ForInit.declared? init)).spells marker ||
        Skeleton.partsSpell marker (ForInit.inSlots init ++ Expr.optionInSlot .test cond ++
          Expr.inSlot .update update)) := by
  have semicolon : Text.isMarkerChar ';' = false := by decide
  have space : [' '].contains '_' = false := by decide
  have ofUpdate :
      occursIn marker (if update.isEmpty then [] else ' ' :: Expr.commaChars update) =
        Skeleton.partsSpell marker (Expr.inSlot .update update) := by
    cases update with
    | nil => exact isMarker.occursIn_nil
    | cons first rest =>
        have ofList := isMarker.occursIn_fixed_append space (Expr.commaChars (first :: rest))
        rw [Expr.occursIn_commaChars isMarker .update] at ofList
        simpa using ofList
  simp only [StmtForm.forHeader]
  rw [isMarker.occursIn_append_cons semicolon, isMarker.occursIn_append_cons semicolon,
    ForInit.occursIn_chars isMarker, ofUpdate]
  cases cond with
  | none =>
      rw [isMarker.occursIn_nil]
      simp [Expr.optionInSlot, Bool.or_assoc]
  | some value =>
      have ofValue : occursIn marker (' ' :: value.chars) = value.skeleton.spells marker :=
        (isMarker.occursIn_fixed_append space value.chars).trans (value.occursIn_chars isMarker)
      simp [ofValue, Expr.optionInSlot, Bool.or_assoc]

theorem Layout.eq_space_of_mem_indent {layout : Layout} {c : Char} (member : c ∈ layout.indent) :
    c = ' ' :=
  List.eq_of_mem_replicate member

theorem Layout.contains_indent (layout : Layout) : layout.indent.contains '_' = false := by
  rw [List.contains_eq_mem, decide_eq_false_iff_not, Layout.indent]
  intro member
  have isSpace := Layout.eq_space_of_mem_indent member
  contradiction

theorem Layout.occursIn_append_indent (isMarker : IsMarker marker) (layout : Layout)
    (text : List Char) : occursIn marker (text ++ layout.indent) = occursIn marker text := by
  have noStart := layout.contains_indent
  cases isIndent : layout.indent with
  | nil => rw [List.append_nil]
  | cons c rest =>
      have member : c ∈ layout.indent := by
        rw [isIndent]
        exact List.mem_cons_self ..
      rcases Layout.eq_space_of_mem_indent member with rfl
      have barrier : Text.isBarrier (' ' :: rest) = true := by
        rw [isIndent] at noStart
        rw [Text.isBarrier, noStart]
        rfl
      exact isMarker.occursIn_append_closing barrier text

theorem Layout.occursIn_braces (isMarker : IsMarker marker) (layout : Layout)
    (lines : List Char) : occursIn marker (layout.braces lines) = occursIn marker lines := by
  rw [Layout.braces]
  split
  · next empty =>
      rw [List.isEmpty_iff.mp empty, isMarker.occursIn_nil]
      exact isMarker.occursIn_fixed (by decide)
  · have opening : ['\x7b', '\n'].contains '_' = false := by decide
    rw [isMarker.occursIn_append_closing (by decide), List.append_assoc,
      isMarker.occursIn_fixed_append opening, Layout.occursIn_append_indent isMarker]

theorem Layout.occursIn_line (isMarker : IsMarker marker) (layout : Layout)
    (text rest : List Char) :
    occursIn marker (layout.indent ++ text ++ '\n' :: rest) =
      (occursIn marker text || occursIn marker rest) := by
  rw [isMarker.occursIn_append_cons (by decide), isMarker.occursIn_fixed_append
    layout.contains_indent]

open Layout (bare)

mutual

/-- The text of a statement mentions a marker where one of its labels does. -/
theorem Stmt.occursIn_chars (isMarker : IsMarker marker) :
    (depth : Nat) → (stmt : Stmt) →
      occursIn marker (stmt.chars (bare depth)) = stmt.skeleton.spells marker
  | depth, ⟨_, form⟩ => form.occursIn_chars isMarker depth

theorem Stmt.occursIn_nestedChars (isMarker : IsMarker marker) :
    (depth : Nat) → (stmt : Stmt) →
      occursIn marker (stmt.nestedChars (bare depth)) = stmt.skeleton.spells marker
  | depth, ⟨_, form⟩ => form.occursIn_chars isMarker depth

theorem StmtForm.occursIn_chars (isMarker : IsMarker marker) :
    (depth : Nat) → (form : StmtForm) →
      occursIn marker (form.chars (bare depth)) =
        (form.label.spells marker || Skeleton.partsSpell marker form.inSlots)
  | depth, .block body => by
      rw [StmtForm.chars_block, Layout.occursIn_braces isMarker]
      exact Stmt.occursIn_linesChars isMarker (depth + 1) body
  | _, .declare decl => by
      rw [StmtForm.chars_declare, isMarker.occursIn_append_closing (by decide),
        decl.occursIn_chars isMarker]
      rfl
  | _, .expr value => by
      rw [StmtForm.chars_expr, isMarker.occursIn_append_closing (by decide),
        value.occursIn_chars isMarker]
      simp [StmtForm.label, StmtForm.inSlots]
  | depth, .ifElse cond thenBranch none => by
      rw [StmtForm.chars_ifElse_none, isMarker.occursIn_append_barrier (by decide),
        isMarker.occursIn_fixed_append (by decide), cond.occursIn_chars isMarker,
        thenBranch.occursIn_nestedChars isMarker depth]
      simp [StmtForm.label, StmtForm.inSlots]
  | depth, .ifElse cond thenBranch (some elseBranch) => by
      rw [StmtForm.chars_ifElse_some, isMarker.occursIn_append_barrier (by decide),
        isMarker.occursIn_append_barrier (by decide),
        isMarker.occursIn_fixed_append (by decide), cond.occursIn_chars isMarker,
        thenBranch.occursIn_nestedChars isMarker depth,
        elseBranch.occursIn_nestedChars isMarker depth]
      simp [StmtForm.label, StmtForm.inSlots, Bool.or_assoc]
  | depth, .forLoop init cond update body => by
      rw [StmtForm.chars_forLoop, isMarker.occursIn_append_barrier (by decide),
        isMarker.occursIn_fixed_append (by decide), StmtForm.occursIn_forHeader isMarker,
        body.occursIn_nestedChars isMarker depth]
      simp [StmtForm.label, StmtForm.inSlots, Bool.or_assoc]
  | depth, .whileLoop cond body => by
      rw [StmtForm.chars_whileLoop, isMarker.occursIn_append_barrier (by decide),
        isMarker.occursIn_fixed_append (by decide), cond.occursIn_chars isMarker,
        body.occursIn_nestedChars isMarker depth]
      simp [StmtForm.label, StmtForm.inSlots]
  | depth, .doWhile body cond => by
      rw [StmtForm.chars_doWhile, isMarker.occursIn_append_closing (by decide),
        isMarker.occursIn_append_barrier (by decide),
        isMarker.occursIn_fixed_append (by decide), cond.occursIn_chars isMarker,
        body.occursIn_nestedChars isMarker depth]
      simp [StmtForm.label, StmtForm.inSlots]
  | _, .ret none => by
      rw [StmtForm.chars_ret_none, isMarker.occursIn_fixed (by decide)]
      rfl
  | _, .ret (some value) => by
      rw [StmtForm.chars_ret_some, isMarker.occursIn_append_closing (by decide),
        isMarker.occursIn_fixed_append (by decide), value.occursIn_chars isMarker]
      simp [StmtForm.label, StmtForm.inSlots, Expr.optionInSlot]
  | _, .brk => by
      rw [StmtForm.chars_brk, isMarker.occursIn_fixed (by decide)]
      rfl
  | _, .cont => by
      rw [StmtForm.chars_cont, isMarker.occursIn_fixed (by decide)]
      rfl
  | _, .empty => by
      rw [StmtForm.chars_empty, isMarker.occursIn_fixed (by decide)]
      rfl

theorem Stmt.occursIn_linesChars (isMarker : IsMarker marker) :
    (depth : Nat) → (stmts : List Stmt) →
      occursIn marker (Stmt.linesChars (bare depth) stmts) =
        Skeleton.partsSpell marker (Stmt.entries stmts)
  | _, [] => isMarker.occursIn_nil
  | depth, stmt :: rest => by
      rw [Stmt.linesChars, Layout.occursIn_line isMarker, stmt.occursIn_chars isMarker depth,
        Stmt.occursIn_linesChars isMarker depth rest]
      rfl

end

theorem Stmt.occursIn_blockChars (isMarker : IsMarker marker) (depth : Nat) (body : List Stmt) :
    occursIn marker (Stmt.blockChars (bare depth) body) =
      Skeleton.partsSpell marker (Stmt.entries body) := by
  rw [Stmt.blockChars, Layout.occursIn_braces isMarker]
  exact Stmt.occursIn_linesChars isMarker (depth + 1) body

/-! ## Declarations -/

theorem Member.occursIn_modifierChars_append (isMarker : IsMarker marker)
    (modifiers : List String) (rest : List Char) :
    occursIn marker (Member.modifierChars modifiers ++ rest) =
      ((modifiers.map String.toList).any (occursIn marker) || occursIn marker rest) := by
  induction modifiers with
  | nil => rfl
  | cons modifier others ih =>
      have split : Member.modifierChars (modifier :: others) ++ rest =
          modifier.toList ++ ' ' :: (Member.modifierChars others ++ rest) := by
        simp [Member.modifierChars]
      rw [split, isMarker.occursIn_append_cons (by decide), ih]
      simp [Bool.or_assoc]

theorem Param.any_occursIn_chars (isMarker : IsMarker marker) (params : List Param) :
    (params.map Param.chars).any (occursIn marker) =
      (params.flatMap fun param => [param.ty.toList, param.name.toList]).any
        (occursIn marker) := by
  induction params with
  | nil => rfl
  | cons param rest ih =>
      simp only [List.map_cons, List.any_cons, ih, Param.chars, List.flatMap_cons, List.any_append,
        isMarker.occursIn_append_cons (show Text.isMarkerChar ' ' = false by decide), List.any_nil,
        Bool.or_false]

theorem FieldDecl.occursIn_chars (isMarker : IsMarker marker) (decl : FieldDecl) :
    occursIn marker decl.chars =
      ((Label.field decl.modifiers decl.ty decl.name).spells marker ||
        Skeleton.partsSpell marker (Expr.optionInSlot .initial decl.init)) := by
  have split : decl.chars =
      Member.modifierChars decl.modifiers ++
        (decl.ty.toList ++ ' ' :: decl.name.toList ++ Expr.initChars decl.init) ++ [';'] := by
    simp [FieldDecl.chars]
  rw [split, isMarker.occursIn_append_closing (by decide),
    Member.occursIn_modifierChars_append isMarker, Expr.occursIn_append_initChars isMarker,
    isMarker.occursIn_append_cons (by decide)]
  simp [Bool.or_assoc]

theorem MethodDecl.occursIn_chars (isMarker : IsMarker marker) (depth : Nat)
    (decl : MethodDecl) :
    occursIn marker (decl.chars (bare depth)) =
      ((Label.method decl.modifiers decl.ret decl.name decl.params).spells marker ||
        Skeleton.partsSpell marker (Stmt.entries decl.body)) := by
  have split : decl.chars (bare depth) =
      Member.modifierChars decl.modifiers ++ (decl.ret.toList ++ ' ' :: (decl.name.toList ++
        '(' :: Text.joinWith [',', ' '] (decl.params.map Param.chars))) ++ ") ".toList ++
          Stmt.blockChars (bare depth) decl.body := by
    simp [MethodDecl.chars]
  rw [split, isMarker.occursIn_append_barrier (by decide),
    Member.occursIn_modifierChars_append isMarker, isMarker.occursIn_append_cons (by decide),
    isMarker.occursIn_append_cons (by decide), isMarker.occursIn_joinWith (by decide),
    Param.any_occursIn_chars isMarker, Stmt.occursIn_blockChars isMarker]
  simp [Bool.or_assoc]

mutual

/-- The text of a declaration mentions a marker where one of its labels does. -/
theorem Member.occursIn_chars (isMarker : IsMarker marker) :
    (depth : Nat) → (member : Member) →
      occursIn marker (member.chars (bare depth)) = member.skeleton.spells marker
  | depth, ⟨_, form⟩ => form.occursIn_chars isMarker depth

theorem MemberForm.occursIn_chars (isMarker : IsMarker marker) :
    (depth : Nat) → (form : MemberForm) →
      occursIn marker (form.chars (bare depth)) =
        (form.label.spells marker || Skeleton.partsSpell marker form.inSlots)
  | depth, .classDecl modifiers name members => by
      have split : (MemberForm.classDecl modifiers name members).chars (bare depth) =
          Member.modifierChars modifiers ++ ("class ".toList ++ (name.toList ++
            ' ' :: (bare depth).braces (Member.linesChars (bare (depth + 1)) members))) := by
        simp [MemberForm.chars]
      rw [split, Member.occursIn_modifierChars_append isMarker,
        isMarker.occursIn_fixed_append (by decide), isMarker.occursIn_append_cons (by decide),
        Layout.occursIn_braces isMarker, Member.occursIn_linesChars isMarker (depth + 1) members]
      simp [MemberForm.label, MemberForm.inSlots, Bool.or_assoc]
  | _, .field decl => decl.occursIn_chars isMarker
  | depth, .method decl => decl.occursIn_chars isMarker depth

theorem Member.occursIn_linesChars (isMarker : IsMarker marker) :
    (depth : Nat) → (members : List Member) →
      occursIn marker (Member.linesChars (bare depth) members) =
        Skeleton.partsSpell marker (Member.entries members)
  | _, [] => isMarker.occursIn_nil
  | depth, member :: rest => by
      rw [Member.linesChars, Layout.occursIn_line isMarker, member.occursIn_chars isMarker depth,
        Member.occursIn_linesChars isMarker depth rest]
      rfl

end

/-- The text of a node mentions a marker where a label in the node or inside it does. -/
theorem Node.occursIn_chars (isMarker : IsMarker marker) (node : Node) :
    occursIn marker node.chars = node.skeleton.spells marker := by
  cases node with
  | member value => exact value.occursIn_chars isMarker 0
  | stmt value => exact value.occursIn_chars isMarker 0
  | expr value => exact value.occursIn_chars isMarker

end Words

end Whittle

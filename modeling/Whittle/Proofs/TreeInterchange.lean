import Whittle.Proofs.ReadingBack
import Whittle.Proofs.TextNumbers

/-!
# Trees are interchanged without loss

A tree that was read from a value has only finite literals, because the numbers
in a value are.  So whatever form the value had, writing the tree and reading it
again gives the same tree.
-/

namespace Whittle

open Json (Source Part)

/-! ## What is read -/

/-- Whatever a reader gives has a property. -/
def Reads {α : Type} (property : α → Prop) (read : Option α) : Prop :=
  ∀ value, read = some value → property value

namespace Reads

variable {α β : Type} {property : α → Prop} {next : β → Prop}

theorem nothing : Reads property none := by
  rintro _ ⟨⟩

theorem pure {value : α} (holds : property value) : Reads property (some value) := by
  rintro _ ⟨⟩
  exact holds

theorem any (read : Option α) : Reads (fun _ => True) read :=
  fun _ _ => trivial

theorem bind {read : Option α} {after : α → Option β} (first : Reads property read)
    (later : ∀ value, property value → Reads next (after value)) :
    Reads next (read.bind after) := by
  intro result found
  rcases Option.bind_eq_some_iff.mp found with ⟨value, isValue, found⟩
  exact later value (first value isValue) result found

theorem map {read : Option α} {make : α → β} (first : Reads property read)
    (made : ∀ value, property value → next (make value)) : Reads next (read.map make) := by
  intro result found
  rcases Option.map_eq_some_iff.mp found with ⟨value, isValue, rfl⟩
  exact made value (first value isValue)

theorem mapM {γ : Type} {read : γ → Option α} {items : List γ}
    (each : ∀ item ∈ items, Reads property (read item)) :
    Reads (fun values => ∀ value ∈ values, property value) (items.mapM read) := by
  induction items with
  | nil => exact .pure (by simp)
  | cons item rest ih =>
      rcases List.forall_mem_cons.mp each with ⟨ofFirst, ofRest⟩
      rw [List.mapM_cons]
      exact ofFirst.bind fun value holds => (ih ofRest).bind fun values hold =>
        .pure (List.forall_mem_cons.mpr ⟨holds, hold⟩)

end Reads

namespace Json

/-- Whether the numbers in what fills the slots of a record fit. -/
def SlotsFit {whole : Json} (slots : List (Option (Part whole))) : Prop :=
  ∀ slot ∈ slots, ∀ part ∈ slot, part.1.numbersFit = true

variable {json : Json} (fits : json.numbersFit = true)

theorem reads_slotNamed? {fields : List (String × Json)} (fit : fieldsFit fields = true)
    (name : String) :
    Reads (fun slot => ∀ part ∈ slot, part.1.numbersFit = true) (slotNamed? name fields) := by
  rintro slot found part rfl
  have member : (name, part.1) ∈ fields.filter (·.1 == name) := by
    simp [filter_of_slotNamed? found]
  exact fieldsFit_iff.mp fit _ (List.mem_filter.mp member).1

include fits

theorem reads_slots? (names : List String) : Reads SlotsFit (slots? names json) := by
  cases json with
  | obj fields => exact .mapM fun name _ => reads_slotNamed? fits name
  | arr items =>
      rw [slots?]
      split
      · refine .pure ?_
        rintro slot isSlot part rfl
        have isItem : part.1 ∈ items := by
          rcases List.mem_map.mp isSlot with ⟨_, isPart, same⟩
          rw [Option.some.inj same] at isPart
          rcases List.mem_map.mp isPart with ⟨item, -, rfl⟩
          exact item.2
        exact itemsFit_iff.mp fits part.1 isItem
      · exact .nothing
  | _ => exact .nothing

theorem reads_caseSlots? (source : Source) (names : List String) :
    Reads SlotsFit (caseSlots? source names json) := by
  unfold caseSlots?
  split
  · exact .nothing
  · exact reads_slots? fits names

theorem reads_variant? :
    Reads (fun found => ∀ content ∈ found.2, content.1.numbersFit = true) json.variant? := by
  unfold variant?
  split
  · exact .pure (by simp)
  · next name content =>
      refine .pure ?_
      rintro part ⟨⟩
      exact fieldsFit_iff.mp fits (name, content) (by simp)
  · exact .nothing

/-- The items of a list are read one by one, each of them from a smaller value. -/
theorem reads_list? {α : Type} {property : α → Prop} {read : Json → Option α}
    (each : ∀ item, sizeOf item < sizeOf json → item.numbersFit = true →
      Reads property (read item)) :
    Reads (fun values => ∀ value ∈ values, property value) (json.list? read) := by
  cases json with
  | arr items =>
      refine .mapM fun item isItem => each item ?_ (itemsFit_iff.mp fits item isItem)
      have smaller := List.sizeOf_lt_of_mem isItem
      rw [arr.sizeOf_spec]
      omega
  | _ => exact .nothing

omit fits

theorem reads_optional? {α : Type} {property : α → Prop} {read : Json → Option α}
    (content : Reads property (read json)) :
    Reads (fun value => ∀ content ∈ value, property content) (json.optional? read) := by
  cases json with
  | null => exact .pure (by simp)
  | _ => exact content.map (by simp)

/-- A field that may be missing or null. -/
theorem reads_slot {α : Type} {property : α → Prop} {read : Json → Option α} {whole : Json}
    {slot : Option (Part whole)} (each : ∀ part ∈ slot, Reads property (read part.1)) :
    Reads (fun value => ∀ content ∈ value, property content)
      (slot.elim (some none) fun part => part.1.optional? read) := by
  cases slot with
  | none => exact .pure (by simp)
  | some part => exact reads_optional? (each part rfl)

namespace Part

variable {whole : Json} {part : Part whole} (partFits : part.1.numbersFit = true)

theorem slotsFit_within {slots : List (Option (Part part.1))} (fit : SlotsFit slots) :
    SlotsFit (slots.map (·.map part.within)) := by
  rintro slot isSlot inner rfl
  rcases List.mem_map.mp isSlot with ⟨own, isOwn, same⟩
  rcases Option.map_eq_some_iff.mp same with ⟨content, rfl, rfl⟩
  exact fit _ isOwn content rfl

include partFits

theorem reads_slots? (names : List String) : Reads SlotsFit (part.slots? names) :=
  (Json.reads_slots? partFits names).map fun _ => slotsFit_within

theorem reads_caseSlots? (source : Source) (names : List String) :
    Reads SlotsFit (part.caseSlots? source names) :=
  (Json.reads_caseSlots? partFits source names).map fun _ => slotsFit_within

theorem reads_variant? :
    Reads (fun found => ∀ content ∈ found.2, content.1.numbersFit = true) part.variant? := by
  refine (Json.reads_variant? partFits).map ?_
  rintro ⟨name, content⟩ fit inner isContent
  rcases Option.map_eq_some_iff.mp isContent with ⟨own, isOwn, rfl⟩
  exact fit own isOwn

end Part

end Json

/-! ## What is read is finite -/

/-- A literal that is read is finite. -/
theorem Literal.reads_finite {json : Json} (fits : json.numbersFit = true) :
    Reads (fun value => (Node.expr (.literal value)).isFinite = true) (Literal.ofJson? json) := by
  refine .bind (Json.reads_variant? fits) fun found ofContent => ?_
  rcases found with ⟨tag, content⟩
  dsimp only
  split
  case h_3 value =>
      exact .map (fun _ => Json.isFinite_of_float? (ofContent value rfl)) fun _ finite => finite
  case h_7 =>
      split
      · exact .pure rfl
      · exact .nothing
  case h_8 => exact .nothing
  all_goals exact .map (.any _) fun _ _ => rfl

section

variable (source : Source)

/-- The floating-point literals of an expression that is read are finite. -/
theorem Expr.reads_finite (json : Json) (fits : json.numbersFit = true) :
    Reads (fun expr => FiniteDoubles expr.outline.nodes) (Expr.ofJson? source json) := by
  rw [Expr.ofJson?]
  simp only [Option.bind_eq_bind, Part.bind_items?]
  refine .bind (Json.reads_slots? fits ["kind"]) fun slots ofSlots => ?_
  split
  case h_2 => exact .nothing
  case h_1 kind =>
  refine .bind (Part.reads_variant? (ofSlots _ (by simp) kind rfl)) fun found ofContent => ?_
  split
  case h_2 => exact .nothing
  case h_1 content =>
  have inside := ofContent content rfl
  -- one case for each name, in the order in which the reader tries them
  split
  · exact .map (Literal.reads_finite inside) fun value finite => by
      simpa [Expr.outline] using finite
  · exact .map (.any _) fun name _ => by simp [Expr.outline]
  · refine .bind (Part.reads_caseSlots? inside source _) fun slots ofSlots => ?_
    split
    · next op operand =>
        have ofOperand := Expr.reads_finite operand.1 (ofSlots _ (by simp) operand rfl)
        exact .bind (.any _) fun op _ => .bind ofOperand fun operand finite =>
          .pure (by simp [Expr.outline, finite])
    · exact .nothing
  · refine .bind (Part.reads_caseSlots? inside source _) fun slots ofSlots => ?_
    split
    · next op lhs rhs =>
        have ofLhs := Expr.reads_finite lhs.1 (ofSlots _ (by simp) lhs rfl)
        have ofRhs := Expr.reads_finite rhs.1 (ofSlots _ (by simp) rhs rfl)
        exact .bind (.any _) fun op _ => .bind ofLhs fun lhs left => .bind ofRhs fun rhs right =>
          .pure (by simp [Expr.outline, left, right])
    · exact .nothing
  · refine .bind (Part.reads_caseSlots? inside source _) fun slots ofSlots => ?_
    split
    · next op target value =>
        have ofTarget := Expr.reads_finite target.1 (ofSlots _ (by simp) target rfl)
        have ofValue := Expr.reads_finite value.1 (ofSlots _ (by simp) value rfl)
        exact .bind (.any _) fun op _ => .bind ofTarget fun target left =>
          .bind ofValue fun value right => .pure (by simp [Expr.outline, left, right])
    · exact .nothing
  · refine .bind (Part.reads_caseSlots? inside source _) fun slots ofSlots => ?_
    split
    · next ty operand =>
        have ofOperand := Expr.reads_finite operand.1 (ofSlots _ (by simp) operand rfl)
        exact .bind (.any _) fun ty _ => .bind ofOperand fun operand finite =>
          .pure (by simp [Expr.outline, finite])
    · exact .nothing
  · exact .bind (Expr.reads_finite content.1 inside) fun inner finite =>
      .pure (by simp [Expr.outline, finite])
  · refine .bind (Part.reads_caseSlots? inside source _) fun slots ofSlots => ?_
    split
    · next callee args =>
        have ofCallee := Expr.reads_finite callee.1 (ofSlots _ (by simp) callee rfl)
        have ofArgs := Json.reads_list? (ofSlots _ (by simp) args rfl) fun arg _ fits =>
          Expr.reads_finite arg fits
        exact .bind ofCallee fun callee called => .bind ofArgs fun args finite =>
          .pure (by simpa [Expr.outline, called, Expr.finiteDoubles_outlines] using finite)
    · exact .nothing
  · refine .bind (Part.reads_caseSlots? inside source _) fun slots ofSlots => ?_
    split
    · next target name =>
        have ofTarget := Expr.reads_finite target.1 (ofSlots _ (by simp) target rfl)
        exact .bind ofTarget fun target finite => .bind (.any _) fun name _ =>
          .pure (by simp [Expr.outline, finite])
    · exact .nothing
  · refine .bind (Part.reads_caseSlots? inside source _) fun slots ofSlots => ?_
    split
    · next cond thenValue elseValue =>
        have ofCond := Expr.reads_finite cond.1 (ofSlots _ (by simp) cond rfl)
        have ofThen := Expr.reads_finite thenValue.1 (ofSlots _ (by simp) thenValue rfl)
        have ofElse := Expr.reads_finite elseValue.1 (ofSlots _ (by simp) elseValue rfl)
        exact .bind ofCond fun cond first => .bind ofThen fun thenValue second =>
          .bind ofElse fun elseValue third =>
            .pure (by simp [Expr.outline, first, second, third])
    · exact .nothing
  · exact .nothing
termination_by sizeOf json
decreasing_by
  all_goals
    first
    | exact Part.smaller _
    -- the items of a list are smaller than the list, which is a part
    | exact Nat.lt_trans (by assumption) (Part.smaller _)

theorem Expr.reads_list_finite {json : Json} (fits : json.numbersFit = true) :
    Reads (fun exprs => FiniteDoubles (Outline.nodesOfList (Expr.outlines exprs)))
      (json.list? (Expr.ofJson? source)) := by
  intro exprs read
  exact (Expr.finiteDoubles_outlines exprs).mpr
    (Json.reads_list? fits (fun expr _ fits => Expr.reads_finite source expr fits) exprs read)

/-- The field of an expression that may be missing. -/
theorem Expr.reads_optionOfSlot?_finite {whole : Json} {slot : Option (Part whole)}
    (fits : ∀ part ∈ slot, part.1.numbersFit = true) :
    Reads (fun value => FiniteDoubles (Outline.nodesOfList (Expr.optionOutline value)))
      (Expr.optionOfSlot? source slot) := by
  rw [Expr.optionOfSlot?_eq]
  have content := Json.reads_slot fun part isPart =>
    Expr.reads_finite source part.1 (fits part isPart)
  rintro (_ | expr) read
  · simp [Expr.optionOutline]
  · simpa [Expr.optionOutline] using content _ read

theorem LocalDecl.reads_finite {json : Json} (fits : json.numbersFit = true) :
    Reads (fun decl => FiniteDoubles (Outline.nodesOfList (Expr.optionOutline decl.init)))
      (LocalDecl.ofJson? source json) := by
  refine .bind (Json.reads_slots? fits _) fun slots ofSlots => ?_
  split
  · next ty name init =>
      have ofInit := Expr.reads_optionOfSlot?_finite source (ofSlots init (by simp))
      exact .bind (.any _) fun ty _ => .bind (.any _) fun name _ =>
        .bind ofInit fun init finite => .pure finite
  · exact .nothing

theorem ForInit.reads_finite {json : Json} (fits : json.numbersFit = true) :
    Reads (fun init => FiniteDoubles (Outline.nodesOfList (ForInit.outlines (some init))))
      (ForInit.ofJson? source json) := by
  refine .bind (Json.reads_variant? fits) fun found ofContent => ?_
  split
  · next tag content =>
      have inside := ofContent content rfl
      split
      · exact .map (LocalDecl.reads_finite source inside) fun decl finite => finite
      · exact .map (Expr.reads_list_finite source inside) fun exprs finite => finite
      · exact .nothing
  · exact .nothing

/-- A block is read statement by statement, each of them from a smaller value. -/
theorem Stmt.reads_block_finite {json : Json} (fits : json.numbersFit = true)
    (each : ∀ stmt, sizeOf stmt < sizeOf json → stmt.numbersFit = true →
      Reads (fun stmt => FiniteDoubles stmt.outline.nodes) (Stmt.ofJson? source stmt)) :
    Reads (fun body => FiniteDoubles (Outline.nodesOfList (Stmt.outlines body)))
      (Stmt.blockOfJson? source json) := by
  refine .bind (Json.reads_slots? fits _) fun slots ofSlots => ?_
  split
  · next stmts =>
      have ofStmts := Json.reads_list? (ofSlots _ (by simp) stmts rfl) fun stmt smaller =>
        each stmt (Nat.lt_trans smaller stmts.2)
      exact fun body read => (Stmt.finiteDoubles_outlines body).mpr (ofStmts body read)
  · exact .nothing

/-- The floating-point literals of a statement that is read are finite. -/
theorem Stmt.reads_finite (json : Json) (fits : json.numbersFit = true) :
    Reads (fun stmt => FiniteDoubles stmt.outline.nodes) (Stmt.ofJson? source json) := by
  rw [Stmt.ofJson?]
  simp only [Option.bind_eq_bind, Stmt.bind_stmtParts?, Json.mapM_present]
  refine .bind (Json.reads_slots? fits _) fun slots ofSlots => ?_
  split
  case h_2 => exact .nothing
  case h_1 trivia kind =>
  refine .bind (.any _) fun trivia _ => ?_
  refine .bind (Part.reads_variant? (ofSlots _ (by simp) kind rfl)) fun found ofContent => ?_
  rcases found with ⟨tag, content⟩
  dsimp only
  -- one case for each name, in the order in which the reader tries them
  split
  · next body =>
      have ofBody := Stmt.reads_block_finite source (ofContent body rfl) fun stmt _ fits =>
        Stmt.reads_finite stmt fits
      exact .bind ofBody fun body finite => .pure (by
        simpa [Stmt.outline, StmtForm.children] using finite)
  · next decl =>
      exact .bind (LocalDecl.reads_finite source (ofContent decl rfl)) fun decl finite =>
        .pure (by simpa [Stmt.outline, StmtForm.children] using finite)
  · next value =>
      exact .bind (Expr.reads_finite source value.1 (ofContent value rfl)) fun value finite =>
        .pure (by simp [Stmt.outline, StmtForm.children, finite])
  · next content =>
      refine .bind (Part.reads_caseSlots? (ofContent content rfl) source _) fun slots ofSlots => ?_
      split
      · next cond thenBranch elseBranch =>
          have ofCond := Expr.reads_finite source cond.1 (ofSlots _ (by simp) cond rfl)
          have ofThen := Stmt.reads_finite thenBranch.1 (ofSlots _ (by simp) thenBranch rfl)
          have ofElse := Json.reads_slot fun part isPart =>
            Stmt.reads_finite part.1 (ofSlots elseBranch (by simp) part isPart)
          exact .bind ofCond fun cond decided => .bind ofThen fun thenBranch yes =>
            .bind ofElse fun elseBranch no => .pure (by
              cases elseBranch with
              | none => simp [Stmt.outline, StmtForm.children, decided, yes]
              | some stmt => simp [Stmt.outline, StmtForm.children, decided, yes, no stmt rfl])
      · exact .nothing
  · next content =>
      refine .bind (Part.reads_caseSlots? (ofContent content rfl) source _) fun slots ofSlots => ?_
      split
      · next init cond update body =>
          have ofInit := Json.reads_slot fun part isPart =>
            ForInit.reads_finite source (ofSlots init (by simp) part isPart)
          have ofCond := Expr.reads_optionOfSlot?_finite source (ofSlots cond (by simp))
          have ofUpdate := Expr.reads_list_finite source (ofSlots _ (by simp) update rfl)
          have ofBody := Stmt.reads_finite body.1 (ofSlots _ (by simp) body rfl)
          exact .bind ofInit fun init started => .bind ofCond fun cond decided =>
            .bind ofUpdate fun update updated => .bind ofBody fun body again => .pure (by
              have ofInit : FiniteDoubles (Outline.nodesOfList (ForInit.outlines init)) := by
                cases init with
                | none => exact finiteDoubles_nil
                | some init => exact started init rfl
              simp [Stmt.outline, StmtForm.children, ofInit, decided, updated, again])
      · exact .nothing
  · next content =>
      refine .bind (Part.reads_caseSlots? (ofContent content rfl) source _) fun slots ofSlots => ?_
      split
      · next cond body =>
          have ofCond := Expr.reads_finite source cond.1 (ofSlots _ (by simp) cond rfl)
          have ofBody := Stmt.reads_finite body.1 (ofSlots _ (by simp) body rfl)
          exact .bind ofCond fun cond decided => .bind ofBody fun body again =>
            .pure (by simp [Stmt.outline, StmtForm.children, decided, again])
      · exact .nothing
  · next content =>
      refine .bind (Part.reads_caseSlots? (ofContent content rfl) source _) fun slots ofSlots => ?_
      split
      · next body cond =>
          have ofBody := Stmt.reads_finite body.1 (ofSlots _ (by simp) body rfl)
          have ofCond := Expr.reads_finite source cond.1 (ofSlots _ (by simp) cond rfl)
          exact .bind ofBody fun body again => .bind ofCond fun cond decided =>
            .pure (by simp [Stmt.outline, StmtForm.children, decided, again])
      · exact .nothing
  · next value =>
      have ofValue := Expr.reads_optionOfSlot?_finite source ofContent
      exact .bind ofValue fun value finite =>
        .pure (by simpa [Stmt.outline, StmtForm.children] using finite)
  case h_12 => exact .nothing
  -- the three that are left have no content
  all_goals
    split
    · exact .pure (by simp [Stmt.outline, StmtForm.children])
    · exact .nothing
termination_by sizeOf json
decreasing_by
  all_goals
    first
    | exact Part.smaller _
    | exact Nat.lt_trans (by assumption) (Part.smaller _)

theorem FieldDecl.reads_finite {json : Json} (fits : json.numbersFit = true) :
    Reads (fun decl => FiniteDoubles (Outline.nodesOfList (Expr.optionOutline decl.init)))
      (FieldDecl.ofJson? source json) := by
  refine .bind (Json.reads_slots? fits _) fun slots ofSlots => ?_
  split
  · next modifiers ty name init =>
      have ofInit := Expr.reads_optionOfSlot?_finite source (ofSlots init (by simp))
      exact .bind (.any _) fun modifiers _ => .bind (.any _) fun ty _ =>
        .bind (.any _) fun name _ => .bind ofInit fun init finite => .pure finite
  · exact .nothing

/-- The floating-point literals of a block that is read are finite. -/
theorem Stmt.reads_blockOfJson?_finite {json : Json} (fits : json.numbersFit = true) :
    Reads (fun body => FiniteDoubles (Outline.nodesOfList (Stmt.outlines body)))
      (Stmt.blockOfJson? source json) :=
  Stmt.reads_block_finite source fits fun stmt _ => Stmt.reads_finite source stmt

theorem MethodDecl.reads_finite {json : Json} (fits : json.numbersFit = true) :
    Reads (fun decl => FiniteDoubles (Outline.nodesOfList (Stmt.outlines decl.body)))
      (MethodDecl.ofJson? source json) := by
  refine .bind (Json.reads_slots? fits _) fun slots ofSlots => ?_
  split
  · next modifiers ret name params body =>
      have ofBody := Stmt.reads_blockOfJson?_finite source (ofSlots _ (by simp) body rfl)
      exact .bind (.any _) fun modifiers _ => .bind (.any _) fun ret _ =>
        .bind (.any _) fun name _ => .bind (.any _) fun params _ =>
          .bind ofBody fun body finite => .pure finite
  · exact .nothing

/-- The floating-point literals of a declaration that is read are finite. -/
theorem Member.reads_finite (json : Json) (fits : json.numbersFit = true) :
    Reads (fun member => FiniteDoubles member.outline.nodes) (Member.ofJson? source json) := by
  rw [Member.ofJson?]
  simp only [Option.bind_eq_bind, Part.bind_items?]
  refine .bind (Json.reads_slots? fits _) fun slots ofSlots => ?_
  split
  case h_2 => exact .nothing
  case h_1 trivia kind =>
  refine .bind (.any _) fun trivia _ => ?_
  refine .bind (Part.reads_variant? (ofSlots _ (by simp) kind rfl)) fun found ofContent => ?_
  split
  case h_2 => exact .nothing
  case h_1 content =>
  have inside := ofContent content rfl
  split
  · refine .bind (Part.reads_slots? inside _) fun slots ofSlots => ?_
    split
    · next modifiers name members =>
        have ofMembers := Json.reads_list? (ofSlots _ (by simp) members rfl) fun member _ fits =>
          Member.reads_finite member fits
        exact .bind (.any _) fun modifiers _ => .bind (.any _) fun name _ =>
          .bind ofMembers fun members finite => .pure (by
            simpa [Member.outline, MemberForm.children, Member.finiteDoubles_outlines]
              using finite)
    · exact .nothing
  · exact .bind (FieldDecl.reads_finite source inside) fun decl finite =>
      .pure (by simpa [Member.outline, MemberForm.children] using finite)
  · exact .bind (MethodDecl.reads_finite source inside) fun decl finite =>
      .pure (by simpa [Member.outline, MemberForm.children] using finite)
  · exact .nothing
termination_by sizeOf json
decreasing_by exact Nat.lt_trans (by assumption) (Part.smaller _)

theorem Program.reads_finite (json : Json) (fits : json.numbersFit = true) :
    Reads (fun program => FiniteDoubles program.nodes) (Program.ofJson? source json) := by
  refine .bind (Json.reads_slots? fits _) fun slots ofSlots => ?_
  split
  · next members =>
      have ofMembers := Json.reads_list? (ofSlots _ (by simp) members rfl) fun member _ fits =>
        Member.reads_finite source member fits
      exact .bind ofMembers fun members finite =>
        .pure ((Member.finiteDoubles_outlines members).mpr finite)
  · exact .nothing

end

/-! ## Interchange -/

/--
Trees of one sort are interchanged without loss: with finite literals a tree is
read back as it was written, and a tree that was read from a value, whatever form
the value had, is read again from what it is written as.
-/
structure Interchanges {α : Type} (nodes : α → List Node) (write : α → Json)
    (read? : Source → Json → Option α) : Prop where
  readsBack : ∀ tree, FiniteDoubles (nodes tree) →
    ∀ source, read? source (write tree) = some tree
  readsAgain : ∀ json, json.numbersFit = true →
    ∀ source tree, read? source json = some tree →
      ∀ target, read? target (write tree) = some tree

theorem Interchanges.of_reads {α : Type} {nodes : α → List Node} {write : α → Json}
    {read? : Source → Json → Option α}
    (back : ∀ source tree, FiniteDoubles (nodes tree) → read? source (write tree) = some tree)
    (finite : ∀ source json, json.numbersFit = true →
      Reads (fun tree => FiniteDoubles (nodes tree)) (read? source json)) :
    Interchanges nodes write read? where
  readsBack tree ofTree source := back source tree ofTree
  readsAgain json fits source tree read target :=
    back target tree (finite source json fits tree read)

/--
Programs, declarations, blocks, statements and expressions are interchanged
without loss.  The values for which this is said are those whose numbers fit, and
every value that a text stands for is one.
-/
theorem trees_are_interchanged :
    Interchanges Program.nodes Program.toJson Program.ofJson? ∧
    Interchanges (fun member => member.outline.nodes) Member.toJson Member.ofJson? ∧
    Interchanges (fun body => Outline.nodesOfList (Stmt.outlines body)) Stmt.blockToJson
      Stmt.blockOfJson? ∧
    Interchanges (fun stmt => stmt.outline.nodes) Stmt.toJson Stmt.ofJson? ∧
    Interchanges (fun expr => expr.outline.nodes) Expr.toJson Expr.ofJson? ∧
    ∀ text json, Json.ofText? text = some json → json.numbersFit = true :=
  ⟨.of_reads Program.ofJson?_toJson Program.reads_finite,
    .of_reads Member.ofJson?_toJson Member.reads_finite,
    .of_reads Stmt.blockOfJson?_blockToJson fun source _ => Stmt.reads_blockOfJson?_finite source,
    .of_reads Stmt.ofJson?_toJson Stmt.reads_finite,
    .of_reads Expr.ofJson?_toJson Expr.reads_finite,
    fun _ _ => Json.numbersFit_of_ofText?⟩

/-- A record among other members, with an array for a record and an integer for a number in it. -/
theorem trees_are_interchanged_return :
    let value : Json :=
      .obj [("kind", .case "Return" (.arr [.case "Literal" (.case "Double" (.int 1))])),
        ("line", .int 3), ("trivia", .arr [])]
    let stmt : Stmt := ⟨[], .ret (some (.literal (.double (.ofInt 1))))⟩
    value.numbersFit = true ∧ Stmt.ofJson? .text value = some stmt ∧
      Stmt.ofJson? .value stmt.toJson = some stmt ∧
        FiniteDoubles stmt.outline.nodes ∧ Stmt.ofJson? .text stmt.toJson = some stmt := by
  intro value stmt
  have literal : Expr.ofJson? .text (.arr [.case "Literal" (.case "Double" (.int 1))]) =
      some (.literal (.double (.ofInt 1))) := by
    rw [Expr.ofJson?]
    rfl
  have read : Stmt.ofJson? .text value = some stmt := by
    rw [Stmt.ofJson?]
    simp only [Expr.optionOfSlot?_eq]
    exact congrArg (fun read : Option Expr =>
      (read.map some).bind fun value => some (⟨[], .ret value⟩ : Stmt)) literal
  have finite : FiniteDoubles stmt.outline.nodes := by
    have one : (Decimal.Binary64.ofInt 1).isFinite = true := by decide
    simp [stmt, Stmt.outline, StmtForm.children, Expr.optionOutline, Expr.outline, one]
  have interchanged := trees_are_interchanged.2.2.2.1
  exact ⟨by rfl, read, interchanged.readsAgain value (by rfl) .text stmt read .value, finite,
    interchanged.readsBack stmt finite .text⟩

end Whittle

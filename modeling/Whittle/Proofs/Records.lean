import Whittle.Json.Record
import Whittle.Json.Words

/-!
# What records and variants consist of

Whatever is taken out of a value stands in it: the slots of an object are its
members of that name, and the parts of an array are its items.  Words are read
as they are written.
-/

namespace Whittle.Json

/-! ## Words -/

@[simp]
theorem int64?_toInt (value : Int64) : int64? (.int value.toInt) = some value := by
  have bounds : Int64.minValue.toInt ≤ value.toInt ∧ value.toInt ≤ Int64.maxValue.toInt :=
    ⟨Int64.minValue_le_toInt value, Int64.toInt_le value⟩
  rw [int64?, intWithin?, if_pos bounds, Option.map_some, Int64.ofInt_toInt]

@[simp]
theorem int32?_toInt (value : Int32) : int32? (.int value.toInt) = some value := by
  have bounds : Int32.minValue.toInt ≤ value.toInt ∧ value.toInt ≤ Int32.maxValue.toInt :=
    ⟨Int32.minValue_le_toInt value, Int32.toInt_le value⟩
  rw [int32?, intWithin?, if_pos bounds, Option.map_some, Int32.ofInt_toInt]

/-! ## Records -/

/-- The values of the members of a name, in the order of the object. -/
theorem membersNamed_map_val (name : String) (fields : List (String × Json)) :
    (membersNamed name fields).map (·.1) = (fields.filter (·.1 == name)).map (·.2) := by
  let valueOf (field : String × Json) : Option Json := if field.1 = name then some field.2 else none
  have attached : fields.attach.filterMap (valueOf ∘ Subtype.val) = fields.filterMap valueOf := by
    rw [← List.filterMap_map, List.attach_map_subtype_val]
  have values : (membersNamed name fields).map (·.1) = fields.filterMap valueOf := by
    rw [← attached, membersNamed, List.map_filterMap]
    congr 1
    funext field
    by_cases named : field.1.1 = name <;> simp [valueOf, named]
  rw [values]
  clear attached values
  induction fields with
  | nil => rfl
  | cons field rest ih =>
      by_cases named : field.1 = name <;> simp [valueOf, named, ← ih]

/-- A slot that is filled is the only member of its name. -/
theorem filter_of_slotNamed? {name : String} {fields : List (String × Json)}
    {part : Part (.obj fields)} (filled : slotNamed? name fields = some (some part)) :
    fields.filter (·.1 == name) = [(name, part.1)] := by
  have values := membersNamed_map_val name fields
  have only : membersNamed name fields = [part] := by
    unfold slotNamed? at filled
    split at filled <;> simp_all
  rw [only] at values
  obtain ⟨field, found⟩ : ∃ field, fields.filter (·.1 == name) = [field] := by
    rw [← List.length_eq_one_iff]
    simpa using (congrArg List.length values).symm
  have named : field.1 = name := by
    have member : field ∈ fields.filter (·.1 == name) := by simp [found]
    simpa using (List.mem_filter.mp member).2
  rw [found] at values ⊢
  simp at values
  rw [values, ← named]

/-! ## Lists -/

theorem list?_ofList {α : Type} {read : Json → Option α} {write : α → Json} {items : List α}
    (back : ∀ item ∈ items, read (write item) = some item) :
    (Json.ofList write items).list? read = some items := by
  rw [Json.ofList, list?]
  induction items with
  | nil => rfl
  | cons item rest ih =>
      rcases List.forall_mem_cons.mp back with ⟨first, others⟩
      rw [List.map_cons, List.mapM_cons, first, ih others]
      rfl

theorem strings?_ofStrings (texts : List String) : (ofStrings texts).strings? = some texts :=
  list?_ofList fun _ _ => rfl

theorem list?_cons {α : Type} (read : Json → Option α) (item : Json) (rest : List Json) :
    (Json.arr (item :: rest)).list? read = (do
      let first ← read item
      return first :: (← (Json.arr rest).list? read)) := by
  rw [list?, List.mapM_cons]
  rfl

theorem mapM_itemsOf {α : Type} (items : List Json) (read : Json → Option α) :
    (itemsOf items).mapM (fun item => read item.1) = items.mapM read := by
  change (itemsOf items).mapM (read ∘ Subtype.val) = _
  rw [← List.mapM_map, itemsOf, List.map_map]
  exact congrArg (List.mapM read) (List.attach_map_subtype_val items)

/-- Items taken out one by one are read as the list is. -/
theorem Part.bind_items? {α β : Type} {whole : Json} (part : Part whole) (read : Json → Option α)
    (next : List α → Option β) :
    (part.items?.bind fun items => (items.mapM fun item => read item.1).bind next) =
      (part.1.list? read).bind next := by
  rcases part with ⟨json, smaller⟩
  cases json with
  | arr items =>
      have values : ((itemsOf items).map (within ⟨.arr items, smaller⟩)).mapM
          (fun item => read item.1) = items.mapM read := by
        rw [List.mapM_map]
        exact mapM_itemsOf items read
      exact congrArg (·.bind next) values
  | _ => rfl

/-- A field that may be missing or null. -/
theorem mapM_present {α : Type} {whole : Json} (slot : Option (Part whole))
    (read : Json → Option α) :
    ((present slot).mapM fun part => read part.1) =
      slot.elim (some none) fun part => part.1.optional? read := by
  cases slot with
  | none => rfl
  | some part =>
      rcases part with ⟨json, smaller⟩
      cases json <;> rfl

theorem optional?_of_ne_null {α : Type} (read : Json → Option α) {json : Json}
    (notNull : json ≠ .null) : json.optional? read = (read json).map some := by
  cases json with
  | null => exact absurd rfl notNull
  | _ => rfl

theorem optional?_ofOption {α : Type} {read : Json → Option α} {write : α → Json}
    {value : Option α} (notNull : ∀ content ∈ value, write content ≠ .null)
    (back : ∀ content ∈ value, read (write content) = some content) :
    (Json.ofOption write value).optional? read = some value := by
  cases value with
  | none => rfl
  | some content =>
      rw [Json.ofOption, optional?_of_ne_null read (notNull content rfl), back content rfl]
      rfl

end Whittle.Json

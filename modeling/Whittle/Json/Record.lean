import Whittle.Json.Value

/-!
# Records and variants in JSON

A record is an object with the fields' names, in any order and among other
members, or an array of the fields' values in order.  A variant is an object
with one member, named for the case, or the bare name if the case has no
content.

Whatever is taken out of a value comes with the proof that it is smaller, so
that decoders can recurse on it.
-/

namespace Whittle.Json

/-- A value inside another one. -/
abbrev Part (whole : Json) := { value : Json // sizeOf value < sizeOf whole }

/-- What makes recursion on the parts of a value end. -/
theorem Part.smaller {whole : Json} (part : Part whole) : sizeOf part.1 < sizeOf whole :=
  part.2

/-- A value inside a part is inside the whole. -/
def Part.within {whole : Json} (outer : Part whole) (inner : Part outer.1) : Part whole :=
  ⟨inner.1, Nat.lt_trans inner.2 outer.2⟩

/-- The values of the members with the given name. -/
def membersNamed (name : String) (fields : List (String × Json)) : List (Part (.obj fields)) :=
  fields.attach.filterMap fun ⟨field, isField⟩ =>
    if field.1 = name then
      some ⟨field.2, by
        have := List.sizeOf_lt_of_mem isField
        have : sizeOf field = 1 + sizeOf field.1 + sizeOf field.2 := by cases field; rfl
        simp only [Json.obj.sizeOf_spec]
        omega⟩
    else none

def itemsOf (items : List Json) : List (Part (.arr items)) :=
  items.attach.map fun ⟨item, isItem⟩ =>
    ⟨item, by
      have := List.sizeOf_lt_of_mem isItem
      simp only [Json.arr.sizeOf_spec]
      omega⟩

/-- The member with the given name, or nothing if there is none; it must not be repeated. -/
def slotNamed? (name : String) (fields : List (String × Json)) :
    Option (Option (Part (.obj fields))) :=
  match membersNamed name fields with
  | [] => some none
  | [part] => some (some part)
  | _ => none

/--
The values of a record's fields in the order of their names.  An object may
lack fields; an array has exactly as many items as there are fields.
-/
def slots? (names : List String) : (json : Json) → Option (List (Option (Part json)))
  | .obj fields => names.mapM (slotNamed? · fields)
  | .arr items =>
      if items.length = names.length then some ((itemsOf items).map some) else none
  | _ => none

/--
Where a value comes from.  A text lets the content of a case be an array where
a record is meant; a value that was read before must have an object there.
-/
inductive Source where
  | text
  | value
deriving Repr, DecidableEq

/-- The same for the record that is the content of a case. -/
def caseSlots? (source : Source) (names : List String) (json : Json) :
    Option (List (Option (Part json))) :=
  match source, json with
  | .value, .arr _ => none
  | _, json => slots? names json

/-- The same for a record whose fields all have defaults: an array may be too short. -/
def defaultedSlots? (names : List String) : (json : Json) → Option (List (Option (Part json)))
  | .obj fields => names.mapM (slotNamed? · fields)
  | .arr items =>
      if items.length ≤ names.length then
        some ((itemsOf items).map some ++ List.replicate (names.length - items.length) none)
      else none
  | _ => none

/-- The name of a variant's case, and its content if it has one. -/
def variant? : (json : Json) → Option (String × Option (Part json))
  | .str name => some (name, none)
  | .obj [(name, content)] => some (name, some ⟨content, by simp; omega⟩)
  | _ => none

def items? : (json : Json) → Option (List (Part json))
  | .arr items => some (itemsOf items)
  | _ => none

namespace Part

variable {whole : Json}

/-- The fields of a record inside the whole. -/
def slots? (names : List String) (part : Part whole) : Option (List (Option (Part whole))) :=
  (Json.slots? names part.1).map (·.map (·.map part.within))

/-- The fields of the content of a case inside the whole. -/
def caseSlots? (source : Source) (names : List String) (part : Part whole) :
    Option (List (Option (Part whole))) :=
  (Json.caseSlots? source names part.1).map (·.map (·.map part.within))

def variant? (part : Part whole) : Option (String × Option (Part whole)) :=
  (Json.variant? part.1).map fun (name, content) => (name, content.map part.within)

/-- The items of a list inside the whole. -/
def items? (part : Part whole) : Option (List (Part whole)) :=
  (Json.items? part.1).map (·.map part.within)

def notNull? (part : Part whole) : Option (Part whole) :=
  match part.1 with
  | .null => none
  | _ => some part

end Part

/-- The content of a field that may be missing or null. -/
def present {whole : Json} (slot : Option (Part whole)) : Option (Part whole) :=
  slot.bind Part.notNull?

/-- The value of a field, or a default if the field is missing. -/
def orDefault {whole : Json} {α : Type} (read : Json → Option α) (default : α) :
    Option (Part whole) → Option α
  | none => some default
  | some part => read part.1

def hasNoContent {whole : Json} : Option (Part whole) → Bool
  | none => true
  | some part =>
      match part.1 with
      | .null => true
      | _ => false

/-- One of a list of named values without content. -/
def choice? {α : Type} (all : List α) (name : α → String) (json : Json) : Option α := do
  let (tag, content) ← json.variant?
  if hasNoContent content then all.find? (name · = tag) else none

end Whittle.Json

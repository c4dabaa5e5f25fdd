import Whittle.Decimal.Binary64

/-!
# JSON values

A value keeps what a reader may want to tell apart: integers and floating-point
numbers, the order of the members of an object, and repeated member names.
-/

namespace Whittle

/-- A JSON value. -/
inductive Json where
  | null
  | bool (value : Bool)
  | int (value : Int)
  | float (value : Decimal.Binary64)
  | str (value : String)
  | arr (items : List Json)
  | obj (fields : List (String × Json))
  /--
  A well-formed text that stands for no value: a number out of range, a string
  with half a surrogate pair, or a container nested too deep.  It can be passed
  over but not read.
  -/
  | unreadable
deriving Repr, Inhabited

namespace Json

mutual

/-- Whether every part of the value can be read. -/
def isReadable : Json → Bool
  | .unreadable => false
  | .arr items => areReadable items
  | .obj fields => fieldsAreReadable fields
  | _ => true

/-- Whether every part of every item can be read. -/
def areReadable : List Json → Bool
  | [] => true
  | item :: rest => isReadable item && areReadable rest

/-- Whether every part of every member can be read. -/
def fieldsAreReadable : List (String × Json) → Bool
  | [] => true
  | (_, value) :: rest => isReadable value && fieldsAreReadable rest

end

mutual

/-- The value in which each object keeps only the last of the members with one name. -/
def lastWins : Json → Json
  | .arr items => .arr (lastWinsItems items)
  | .obj fields => .obj (lastWinsFields fields)
  | value => value

/-- The items, each with the last of its repeated members. -/
def lastWinsItems : List Json → List Json
  | [] => []
  | item :: rest => lastWins item :: lastWinsItems rest

/-- The members that no later one replaces. -/
def lastWinsFields : List (String × Json) → List (String × Json)
  | [] => []
  | (name, value) :: rest =>
      let kept := lastWinsFields rest
      if kept.any (·.1 == name) then kept else (name, lastWins value) :: kept

end

/-- The value of the first member with the given name, if the value is an object that has one. -/
def member? (name : String) : Json → Option Json
  | .obj fields => fields.lookup name
  | _ => none

/-- The string, if the value is one. -/
def string? : Json → Option String
  | .str value => some value
  | _ => none

/-- The boolean, if the value is one. -/
def bool? : Json → Option Bool
  | .bool value => some value
  | _ => none

/-- The integer, if the value is one that lies between the bounds. -/
def intWithin? (least greatest : Int) : Json → Option Int
  | .int value => if least ≤ value ∧ value ≤ greatest then some value else none
  | _ => none

/-- The natural number, if the value is one below the bound. -/
def natBelow? (bound : Nat) : Json → Option Nat
  | .int value => if 0 ≤ value ∧ value < bound then some value.toNat else none
  | _ => none

/-- The floating-point number; an integer is rounded to one. -/
def float? : Json → Option Decimal.Binary64
  | .float value => some value
  | .int value => some (.ofInt value)
  | _ => none

/-- The character, if the value is a string of exactly one. -/
def char? : Json → Option Char
  | .str value =>
      match value.toList with
      | [c] => some c
      | _ => none
  | _ => none

/-- The list read item by item, if the value is an array. -/
def list? {α : Type} (read : Json → Option α) : Json → Option (List α)
  | .arr items => items.mapM read
  | _ => none

def optional? {α : Type} (read : Json → Option α) : Json → Option (Option α)
  | .null => some none
  | value => (read value).map some

/-- A list of values written one by one. -/
def ofList {α : Type} (write : α → Json) (items : List α) : Json :=
  .arr (items.map write)

/-- A value that may be missing, written as null if it is. -/
def ofOption {α : Type} (write : α → Json) : Option α → Json
  | none => .null
  | some value => write value

/-- A floating-point number, written as null if it is infinite or not a number. -/
def ofFloat (value : Decimal.Binary64) : Json :=
  if value.isFinite then .float value else .null

def ofStrings (texts : List String) : Json :=
  .ofList .str texts

def strings? (json : Json) : Option (List String) :=
  json.list? string?

end Json

end Whittle

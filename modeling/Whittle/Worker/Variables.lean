import Whittle.Json.Value
import Whittle.Text.Utf8

/-!
# Environment variables

Variables are kept in ascending order of their names, each name once.  A
snapshot keeps those that begin in one of the given ways.
-/

namespace Whittle

/-- Variables in ascending order of their names. -/
structure Variables where
  toList : List (String × String)
  ascending : toList.Pairwise fun earlier later => earlier.1 < later.1

namespace Variables

def empty : Variables := ⟨[], .nil⟩

/-- Put a variable at its place; an earlier value of it is replaced. -/
def place (name value : String) : List (String × String) → List (String × String)
  | [] => [(name, value)]
  | (other, old) :: rest =>
      if name < other then (name, value) :: (other, old) :: rest
      else if other < name then (other, old) :: place name value rest
      else (name, value) :: rest

theorem name_of_mem_place {name value : String} {entries : List (String × String)}
    {entry : String × String} (isIn : entry ∈ place name value entries) :
    entry.1 = name ∨ entry ∈ entries := by
  induction entries with
  | nil => simp_all [place]
  | cons first rest ih =>
      simp only [place] at isIn
      split at isIn
      · simp only [List.mem_cons] at isIn ⊢
        rcases isIn with rfl | isIn
        · exact .inl rfl
        · exact .inr isIn
      · split at isIn
        · simp only [List.mem_cons] at isIn ⊢
          rcases isIn with rfl | isIn
          · exact .inr (.inl rfl)
          · exact (ih isIn).imp id .inr
        · simp only [List.mem_cons] at isIn ⊢
          rcases isIn with rfl | isIn
          · exact .inl rfl
          · exact .inr (.inr isIn)

theorem place_ascending (name value : String) {entries : List (String × String)}
    (ascending : entries.Pairwise fun earlier later => earlier.1 < later.1) :
    (place name value entries).Pairwise fun earlier later => earlier.1 < later.1 := by
  induction entries with
  | nil => simp [place]
  | cons first rest ih =>
      obtain ⟨before, ascendingRest⟩ := List.pairwise_cons.1 ascending
      simp only [place]
      split
      · next less =>
          refine List.pairwise_cons.2 ⟨fun entry isIn => ?_, ascending⟩
          rcases List.mem_cons.1 isIn with rfl | isIn
          · exact less
          · exact String.lt_trans less (before entry isIn)
      · next notLess =>
          split
          · next greater =>
              refine List.pairwise_cons.2 ⟨fun entry isIn => ?_, ih ascendingRest⟩
              rcases name_of_mem_place isIn with same | isIn
              · exact same ▸ greater
              · exact before entry isIn
          · next notGreater =>
              have same : name = first.1 :=
                String.le_antisymm (String.not_lt.1 notGreater) (String.not_lt.1 notLess)
              exact List.pairwise_cons.2
                ⟨fun entry isIn => same ▸ before entry isIn, ascendingRest⟩

def insert (environment : Variables) (name value : String) : Variables :=
  ⟨place name value environment.toList, place_ascending name value environment.ascending⟩

/-- Variables from a list, in which later values replace earlier ones. -/
def ofList (entries : List (String × String)) : Variables :=
  entries.foldl (fun environment (name, value) => environment.insert name value) empty

/-- The name and the value of a variable, with the first equals sign between them. -/
def entryOf? (text : List Char) : Option (String × String) :=
  match text.dropWhile (· != '=') with
  | [] => none
  | _ :: value => some (String.ofList (text.takeWhile (· != '=')), String.ofList value)

/-- The pieces of a row of bytes between zero bytes. -/
def splitAtZeros : List UInt8 → List (List UInt8)
  | [] => [[]]
  | byte :: rest =>
      match splitAtZeros rest with
      | [] => [[byte]]
      | piece :: pieces =>
          if byte = 0 then [] :: piece :: pieces else (byte :: piece) :: pieces

/-- Variables from the row of bytes in which a system keeps them. -/
def ofBlock (block : List UInt8) : Variables :=
  ofList ((splitAtZeros block).filterMap fun piece => entryOf? (Text.Utf8.decodeLossy piece))

def get? (environment : Variables) (name : String) : Option String :=
  environment.toList.lookup name

/-- The variables whose names begin in one of the given ways. -/
def snapshot (environment : Variables) (starts : List String) : Variables :=
  ⟨environment.toList.filter fun (name, _) =>
      starts.any fun start => start.toList.isPrefixOf name.toList,
    environment.ascending.filter _⟩

def toJson (environment : Variables) : Json :=
  .obj (environment.toList.map fun (name, value) => (name, .str value))

/-- Read variables; later members replace earlier ones of the same name. -/
def ofJson? : Json → Option Variables
  | .obj fields => do
      let entries ← fields.mapM fun (name, value) => do return (name, ← value.string?)
      return ofList entries
  | _ => none

end Variables

end Whittle

import Mathlib.Algebra.BigOperators.Group.List.Basic
import Mathlib.Algebra.GroupWithZero.Nat
import Whittle.Proofs.Addresses
import Whittle.Proofs.OutlineWalks

/-!
# What a walk visits

A visitor is called at one place after the other.  It is not called below a
place where it said `skip`, and it is not called again once it has said `stop`;
at all other places it is called once, in the order of the source
(`Honours`).  That holds whatever state the visitor keeps, since what it is
called with is recorded from outside (`Visitor.recorded`).
-/

namespace Whittle

variable {σ β : Type}

/-! ## Visits -/

namespace Verdict

/-- What the walk ends with after this verdict, if it ends. -/
def result? : Verdict β → Option β
  | .stop result => some result
  | _ => none

def isSkip : Verdict β → Bool
  | .skip => true
  | _ => false

end Verdict

/-- Whether the first place is strictly above the second one. -/
def Place.isAbove (upper lower : Place) : Bool :=
  upper.address.isPrefixOf lower.address && upper.address != lower.address

/-- A place where the visitor was called, with its verdict. -/
structure Visit (β : Type) where
  place : Place
  verdict : Verdict β

namespace Visit

/-- What the visitor itself knows of a visit. -/
def seen (visit : Visit β) : Node × Verdict β :=
  (visit.place.node, visit.verdict)

/-- Whether the visit keeps the walk from going to a place. -/
def cuts (visit : Visit β) (place : Place) : Bool :=
  visit.verdict.isSkip && visit.place.isAbove place

/-- The places that no skipped one is above, given all visits of a walk. -/
def leftOpen (visits : List (Visit β)) (places : List Place) : List Place :=
  places.filter fun place => !visits.any (·.cuts place)

end Visit

open Visit (leftOpen)

/-- The visits are what skips and stops allow, no less and no more. -/
structure Honours (places : List Place) (visits : List (Visit β)) (result : Option β) : Prop where
  /-- The visitor is called at the places left open, in order. -/
  inOrder : visits.map Visit.place <+: leftOpen visits places
  /-- Only a stop keeps it from being called at all of them. -/
  complete : result = none → visits.map Visit.place = leftOpen visits places
  /-- Nothing is visited after a stop. -/
  goesOn : ∀ visit ∈ visits.dropLast, visit.verdict.result? = none
  /-- The walk ends with what the visitor has stopped it with, if it has. -/
  result_eq : result = visits.getLast?.bind (·.verdict.result?)

/-- The visitor that also keeps a record of the nodes it is called with and of its verdicts. -/
def Visitor.recorded (visit : Visitor σ β) : Visitor (σ × List (Node × Verdict β)) β :=
  fun node (state, record) =>
    let (verdict, next) := visit node state
    (verdict, next, record ++ [(node, verdict)])

/-! ## Places apart -/

/-- No place of one list is above a place of the other one. -/
def Place.Apart (first second : List Place) : Prop :=
  ∀ place ∈ first, ∀ other ∈ second, place.isAbove other = false ∧ other.isAbove place = false

namespace Place

theorem isAbove_eq_false_of_not_prefix {upper lower : Place}
    (aside : ¬ upper.address <+: lower.address) : upper.isAbove lower = false := by
  rw [isAbove, Bool.eq_false_iff]
  intro above
  rw [Bool.and_eq_true, List.isPrefixOf_iff_prefix] at above
  exact aside above.1

/-- Addresses that part before they end are not prefixes of each other. -/
theorem not_prefix_of_parted (address : List Nat) {index other : Nat} (parted : index ≠ other)
    (path otherPath : List Nat) :
    ¬ address ++ index :: path <+: address ++ other :: otherPath := by
  rw [List.prefix_append_right_inj, List.cons_prefix_cons]
  exact fun both => parted both.1

/-- An outline is apart from the ones after it. -/
theorem apart_placesBelow (address : List Nat) (index : Nat) (outline : Outline)
    (rest : List Outline) :
    Apart (outline.placesAt (address ++ [index]))
      (Outline.placesBelow address (index + 1) rest) := by
  intro place isEarlier other isLater
  obtain ⟨path, equal⟩ := Outline.prefix_of_mem_placesAt isEarlier
  obtain ⟨later, laterPath, beyond, laterEqual⟩ := Outline.exists_of_mem_placesBelow isLater
  rw [List.append_assoc, List.singleton_append] at equal
  constructor
  · apply isAbove_eq_false_of_not_prefix
    rw [← equal, laterEqual]
    exact not_prefix_of_parted address (by omega) path laterPath
  · apply isAbove_eq_false_of_not_prefix
    rw [← equal, laterEqual]
    exact not_prefix_of_parted address (by omega) laterPath path

/-- A place is above all others in its outline. -/
theorem isAbove_of_mem_placesBelow {address : List Nat} {first : Nat} {outlines : List Outline}
    {place : Place} (isIn : place ∈ Outline.placesBelow address first outlines) (head : Node) :
    isAbove ⟨address, head⟩ place = true ∧ place.isAbove ⟨address, head⟩ = false := by
  obtain ⟨index, path, -, equal⟩ := Outline.exists_of_mem_placesBelow isIn
  constructor
  · rw [isAbove, Bool.and_eq_true, List.isPrefixOf_iff_prefix, equal]
    exact ⟨List.prefix_append .., by simp⟩
  · apply isAbove_eq_false_of_not_prefix
    rw [equal]
    intro short
    have atMost := short.length_le
    simp only [List.length_append, List.length_cons] at atMost
    omega

end Place

/-! ## Visits of a part -/

namespace Visit

variable {first second : List Place} {visits others : List (Visit β)}

theorem leftOpen_append (visits : List (Visit β)) (first second : List Place) :
    leftOpen visits (first ++ second) = leftOpen visits first ++ leftOpen visits second :=
  List.filter_append ..

/-- Visits that are above none of the places leave them as open as they are without them. -/
theorem leftOpen_append_of_aside {places : List Place}
    (aside : ∀ visit ∈ others, ∀ place ∈ places, visit.place.isAbove place = false) :
    leftOpen (visits ++ others) places = leftOpen visits places := by
  apply List.filter_congr
  intro place isIn
  have none : others.any (·.cuts place) = false := by
    rw [List.any_eq_false]
    intro visit isVisit
    simp [cuts, aside visit isVisit place isIn]
  rw [List.any_append, none, Bool.or_false]

theorem leftOpen_append_comm (visits others : List (Visit β)) (places : List Place) :
    leftOpen (visits ++ others) places = leftOpen (others ++ visits) places := by
  simp only [leftOpen, List.any_append, Bool.or_comm]

end Visit

namespace Honours

variable {first second : List Place} {visits others : List (Visit β)} {result : Option β}

/-- Visits are made at places. -/
theorem place_mem (honours : Honours first visits result) {visit : Visit β}
    (isVisit : visit ∈ visits) : visit.place ∈ first :=
  (List.mem_filter.1 (honours.inOrder.subset (List.mem_map_of_mem isVisit))).1

/-- Where nothing stops the walk, none of the visits does. -/
theorem quiet (honours : Honours first visits (none : Option β)) :
    ∀ visit ∈ visits, visit.verdict.result? = none := by
  intro visit isVisit
  have ending := honours.result_eq
  rcases List.eq_nil_or_concat visits with rfl | ⟨earlier, last, rfl⟩
  · cases isVisit
  · simp only [List.concat_eq_append, List.getLast?_append, List.getLast?_singleton,
      Option.some_or, Option.bind_some] at ending
    simp only [List.concat_eq_append, List.mem_append, List.mem_singleton] at isVisit
    rcases isVisit with isEarlier | rfl
    · exact honours.goesOn visit (by simpa using isEarlier)
    · exact ending.symm

/-- A walk over no places. -/
theorem nil : Honours [] ([] : List (Visit β)) none where
  inOrder := List.prefix_rfl
  complete := fun _ => rfl
  goesOn := by simp
  result_eq := rfl

/-- A stop in the first part ends the walk over both. -/
theorem append_of_stopped {stopped : β} (honours : Honours first visits (some stopped))
    (second : List Place) : Honours (first ++ second) visits (some stopped) where
  inOrder := by
    rw [Visit.leftOpen_append]
    exact honours.inOrder.trans (List.prefix_append ..)
  complete := fun impossible => by cases impossible
  goesOn := honours.goesOn
  result_eq := honours.result_eq

/-- The walk over two parts is the walk over one after the walk over the other. -/
theorem append (ofFirst : Honours first visits none) (ofSecond : Honours second others result)
    (apart : Place.Apart first second) : Honours (first ++ second) (visits ++ others) result := by
  have openFirst : leftOpen (visits ++ others) first = visits.map Visit.place := by
    rw [Visit.leftOpen_append_of_aside, ofFirst.complete rfl]
    intro visit isVisit place isIn
    exact (apart place isIn visit.place (ofSecond.place_mem isVisit)).2
  have openSecond : leftOpen (visits ++ others) second = leftOpen others second := by
    rw [Visit.leftOpen_append_comm, Visit.leftOpen_append_of_aside]
    intro visit isVisit place isIn
    exact (apart visit.place (ofFirst.place_mem isVisit) place isIn).1
  constructor
  · rw [Visit.leftOpen_append, openFirst, openSecond, List.map_append]
    exact (List.prefix_append_right_inj _).2 ofSecond.inOrder
  · intro unstopped
    rw [Visit.leftOpen_append, openFirst, openSecond, List.map_append,
      ofSecond.complete unstopped]
  · intro visit isEarlier
    cases others with
    | nil =>
        rw [List.append_nil] at isEarlier
        exact ofFirst.goesOn visit isEarlier
    | cons next later =>
        rw [List.dropLast_append_cons, List.mem_append] at isEarlier
        rcases isEarlier with inFirst | inSecond
        · exact ofFirst.quiet visit inFirst
        · exact ofSecond.goesOn visit inSecond
  · rw [ofSecond.result_eq, List.getLast?_append]
    cases others.getLast? with
    | some last => rfl
    | none => exact ofFirst.result_eq

variable {here : Place} {below : List Place}

/-- A stop at the root of an outline. -/
theorem stop (stopped : β) : Honours (here :: below) [⟨here, .stop stopped⟩] (some stopped) where
  inOrder := ⟨below, by simp [leftOpen, Visit.cuts, Verdict.isSkip]⟩
  complete := fun impossible => by cases impossible
  goesOn := by simp
  result_eq := rfl

/-- A skip at the root of an outline keeps the walk from all that is below. -/
theorem skip (above : ∀ place ∈ below, here.isAbove place = true) :
    Honours (here :: below) [⟨here, .skip⟩] (none : Option β) := by
  have leaves : leftOpen [(⟨here, .skip⟩ : Visit β)] (here :: below) = [here] := by
    have closed : leftOpen [(⟨here, .skip⟩ : Visit β)] below = [] := by
      rw [leftOpen, List.filter_eq_nil_iff]
      intro place isIn
      simp [Visit.cuts, Verdict.isSkip, above place isIn]
    have root : ([(⟨here, .skip⟩ : Visit β)].any (·.cuts here)) = false := by
      simp [Visit.cuts, Place.isAbove]
    rw [leftOpen, List.filter_cons_of_pos (by rw [root]; rfl)]
    exact congrArg _ closed
  exact ⟨leaves ▸ List.prefix_rfl, fun _ => leaves.symm, by simp, rfl⟩

/-- Going on at the root of an outline, the walk is the one over what is below. -/
theorem advance (honours : Honours below visits result)
    (aside : ∀ place ∈ below, place.isAbove here = false) :
    Honours (here :: below) (⟨here, .advance⟩ :: visits) result := by
  have leaves : leftOpen (⟨here, .advance⟩ :: visits) (here :: below) =
      here :: leftOpen visits below := by
    have root : (((⟨here, .advance⟩ : Visit β) :: visits).any (·.cuts here)) = false := by
      rw [List.any_eq_false]
      intro visit isVisit
      rcases List.mem_cons.1 isVisit with rfl | isVisit
      · simp [Visit.cuts, Verdict.isSkip]
      · simp [Visit.cuts, aside visit.place (honours.place_mem isVisit)]
    rw [leftOpen, List.filter_cons_of_pos (by rw [root]; rfl)]
    rfl
  constructor
  · rw [leaves]
    exact List.cons_prefix_cons.2 ⟨rfl, honours.inOrder⟩
  · intro unstopped
    rw [leaves, List.map_cons, honours.complete unstopped]
  · intro visit isEarlier
    cases visits with
    | nil => cases isEarlier
    | cons next later =>
        rw [List.dropLast_cons_cons, List.mem_cons] at isEarlier
        rcases isEarlier with rfl | inside
        · rfl
        · exact honours.goesOn visit inside
  · rw [honours.result_eq]
    cases visits with
    | nil => rfl
    | cons next later => rw [List.getLast?_cons_cons]

end Honours

/-! ## Walks -/

namespace Outline

mutual

/-- A walk through an outline does what the verdicts say. -/
theorem exists_visits_walk (visit : Visitor σ β) (address : List Nat) :
    (outline : Outline) → (state : σ) → (record : List (Node × Verdict β)) →
      ∃ visits : List (Visit β),
        outline.walk visit.recorded (state, record) =
          ((outline.walk visit state).1, (outline.walk visit state).2,
            record ++ visits.map Visit.seen) ∧
          Honours (outline.placesAt address) visits (outline.walk visit state).1
  | .node head children, state, record => by
      have above {place : Place} (isIn : place ∈ placesBelow address 0 children) :=
        Place.isAbove_of_mem_placesBelow isIn head
      rw [placesAt, walk, walk]
      simp only [Visitor.recorded]
      rcases answer : visit head state with ⟨verdict, next⟩
      cases verdict with
      | stop result => exact ⟨_, rfl, .stop result⟩
      | skip => exact ⟨_, rfl, .skip fun _ isIn => (above isIn).1⟩
      | advance =>
          obtain ⟨visits, walked, honours⟩ := exists_visits_walkList visit address 0 children next
            (record ++ [(head, .advance)])
          refine ⟨_, ?_, honours.advance fun _ isIn => (above isIn).2⟩
          dsimp only
          rw [walked, List.append_assoc]
          rfl

/-- A walk through outlines one after the other does what the verdicts say. -/
theorem exists_visits_walkList (visit : Visitor σ β) (address : List Nat) (first : Nat) :
    (outlines : List Outline) → (state : σ) → (record : List (Node × Verdict β)) →
      ∃ visits : List (Visit β),
        walkList visit.recorded outlines (state, record) =
          ((walkList visit outlines state).1, (walkList visit outlines state).2,
            record ++ visits.map Visit.seen) ∧
          Honours (placesBelow address first outlines) visits (walkList visit outlines state).1
  | [], state, record => ⟨[], by simp [walkList], .nil⟩
  | outline :: rest, state, record => by
      obtain ⟨visits, walked, honours⟩ :=
        exists_visits_walk visit (address ++ [first]) outline state record
      rw [placesBelow, walkList, walkList, walked]
      rcases ending : outline.walk visit state with ⟨result, next⟩
      rw [ending] at honours
      cases result with
      | some result => exact ⟨visits, rfl, honours.append_of_stopped _⟩
      | none =>
          obtain ⟨others, restWalked, restHonours⟩ := exists_visits_walkList visit address
            (first + 1) rest next (record ++ visits.map Visit.seen)
          refine ⟨visits ++ others, ?_,
            honours.append restHonours (Place.apart_placesBelow address first outline rest)⟩
          dsimp only
          rw [restWalked, List.map_append, List.append_assoc]

end

/-! ## Counts -/

/-- The visitor that counts the nodes of a kind. -/
def counting (kind : NodeKind) : Visitor Nat Empty :=
  fun node seen => (.advance, if node.kind = kind then seen + 1 else seen)

mutual

theorem walk_counting (kind : NodeKind) :
    (outline : Outline) → (seen : Nat) →
      outline.walk (counting kind) seen = (none, seen + outline.nodes.countP (·.kind = kind))
  | .node head children, seen => by
      rw [walk, counting, nodes, List.countP_cons]
      dsimp only
      rw [walkList_counting kind children]
      by_cases isKind : head.kind = kind
      · simp only [isKind, if_true, decide_true]
        rw [Nat.add_assoc, Nat.add_comm 1]
      · simp [isKind]

theorem walkList_counting (kind : NodeKind) :
    (outlines : List Outline) → (seen : Nat) →
      walkList (counting kind) outlines seen =
        (none, seen + (nodesOfList outlines).countP (·.kind = kind))
  | [], seen => rfl
  | outline :: rest, seen => by
      rw [walkList, walk_counting kind outline]
      dsimp only
      rw [walkList_counting kind rest, nodesOfList, List.countP_append, Nat.add_assoc]

end

end Outline

namespace Program

/-- Counting walks every place of the kind. -/
theorem count_eq (program : Program) (kind : NodeKind) :
    program.count kind = program.addressedNodes.countP (·.node.kind = kind) := by
  have walked := Outline.walkList_counting kind program.outlines 0
  have found : program.count kind = program.nodes.countP (·.kind = kind) := by
    rw [count, walk_eq]
    show (Outline.walkList (Outline.counting kind) program.outlines 0).2 = _
    rw [walked, Nat.zero_add]
    rfl
  rw [found, ← program.map_node_addressedNodes, List.countP_map]
  rfl

/-- Every place is of exactly one kind. -/
theorem sum_count (program : Program) :
    (NodeKind.all.map program.count).sum = program.addressedNodes.length := by
  have single (kind : NodeKind) :
      (NodeKind.all.map fun other => if kind = other then 1 else 0).sum = 1 := by
    cases kind <;> rfl
  have all (places : List Place) :
      (NodeKind.all.map fun kind => places.countP (·.node.kind = kind)).sum = places.length := by
    induction places with
    | nil => simp
    | cons place rest ih =>
        simp only [List.countP_cons, decide_eq_true_eq, List.sum_map_add, ih, single,
          List.length_cons]
  rw [← all program.addressedNodes]
  exact congrArg List.sum (List.map_congr_left fun kind _ => program.count_eq kind)

/--
A walk calls its visitor exactly where skips and stops allow, and ends with what
it was stopped with.  The places of a program are all that addresses lead to, in
the order of the source; the visitor is called at those that no skipped place is
above, in order and once each, up to the first one where it says `stop`.  So the
counts of the kinds add up to the number of places, and each is the number of
places of that kind.
-/
theorem walk_honours_verdicts (program : Program) :
    (∀ place, place ∈ program.addressedNodes ↔ program.nodeAt? place.address = some place.node) ∧
    (program.addressedNodes.Pairwise fun place later => place.address < later.address) ∧
    (∀ (σ β : Type) (visit : Visitor σ β) (state : σ), ∃ visits : List (Visit β),
      program.walk visit.recorded (state, []) =
        ((program.walk visit state).1, (program.walk visit state).2,
          visits.map Visit.seen) ∧
      Honours program.addressedNodes visits (program.walk visit state).1) ∧
    (NodeKind.all.map program.count).sum = program.addressedNodes.length ∧
    ∀ kind, program.count kind = program.addressedNodes.countP (·.node.kind = kind) := by
  refine ⟨program.mem_addressedNodes_iff, program.addressedNodes_ascending, ?_, program.sum_count,
    program.count_eq⟩
  intro σ β visit state
  rw [program.walk_eq, program.walk_eq]
  exact Outline.exists_visits_walkList visit [] 0 program.outlines state []

end Program

end Whittle

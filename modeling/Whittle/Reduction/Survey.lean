/-!
# Surveys

A survey meets candidates one after the other and decides for each whether it
is selected.  What is left to select is part of its input, and the candidates
met and whether anything changed are part of its result; so the parts of a
survey can be looked at one by one, and two surveys in a row pass on only the
selection that the first has left.
-/

namespace Whittle

/-- Which candidates are selected. -/
inductive Mode where
  /-- None; they are only counted. -/
  | probe
  /-- The one that this many others come before. -/
  | nth (index : Nat)
  /-- All of them. -/
  | all
deriving Repr, DecidableEq

namespace Mode

def isBatch : Mode → Bool
  | .all => true
  | _ => false

def selectsNext : Mode → Bool
  | .all => true
  | .nth 0 => true
  | _ => false

/-- What is left to select after a number of candidates. -/
def after (mode : Mode) (count : Nat) : Mode :=
  match mode with
  | .nth index => if index < count then .probe else .nth (index - count)
  | _ => mode

@[simp]
theorem after_zero (mode : Mode) : mode.after 0 = mode := by
  cases mode <;> simp [after]

theorem after_after (mode : Mode) (first second : Nat) :
    (mode.after first).after second = mode.after (first + second) := by
  cases mode with
  | probe => rfl
  | all => rfl
  | nth index =>
      simp only [after]
      by_cases isFirst : index < first
      · rw [if_pos isFirst, if_pos (by omega)]
      · rw [if_neg isFirst]
        simp only
        by_cases isSecond : index - first < second
        · rw [if_pos isSecond, if_pos (by omega)]
        · rw [if_neg isSecond, if_neg (by omega)]
          congr 1
          omega

end Mode

/-- A result with the number of candidates met and whether anything changed. -/
structure Counted (α : Type) where
  value : α
  candidates : Nat
  changed : Bool
deriving Repr, DecidableEq

/-- A computation that meets candidates, given what is to be selected. -/
def Survey (α : Type) := Mode → Counted α

namespace Survey

variable {α β : Type}

/-- Two surveys in a row. -/
def andThen (first : Survey α) (second : α → Survey β) : Survey β := fun mode =>
  let met := first mode
  let rest := second met.value (mode.after met.candidates)
  ⟨rest.value, met.candidates + rest.candidates, met.changed || rest.changed⟩

instance : Monad Survey where
  pure value := fun _ => ⟨value, 0, false⟩
  bind := andThen

@[simp]
theorem pure_apply (value : α) (mode : Mode) :
    (pure value : Survey α) mode = ⟨value, 0, false⟩ :=
  rfl

@[simp]
theorem bind_apply (first : Survey α) (second : α → Survey β) (mode : Mode) :
    (first >>= second) mode =
      ⟨(second (first mode).value (mode.after (first mode).candidates)).value,
        (first mode).candidates +
          (second (first mode).value (mode.after (first mode).candidates)).candidates,
        (first mode).changed ||
          (second (first mode).value (mode.after (first mode).candidates)).changed⟩ :=
  rfl

@[simp]
theorem map_apply (f : α → β) (survey : Survey α) (mode : Mode) :
    (f <$> survey) mode =
      ⟨f (survey mode).value, (survey mode).candidates, (survey mode).changed⟩ := by
  show andThen survey (fun value => pure (f value)) mode = _
  simp [andThen]

/-- Meet one candidate and tell whether it is selected; a selection is a change. -/
def candidate : Survey Bool := fun mode =>
  ⟨mode.selectsNext, 1, mode.selectsNext⟩

def isBatch : Survey Bool := fun mode =>
  ⟨mode.isBatch, 0, false⟩

/-- Record a change that selects no candidate. -/
def change : Survey Unit := fun _ =>
  ⟨(), 0, true⟩

end Survey

/-! ## A survey in progress -/

/-- A survey seen step by step: what is left to select, and what has been met. -/
structure Progress where
  pending : Mode
  batch : Bool
  candidates : Nat
  changed : Bool
deriving Repr, DecidableEq

namespace Progress

/-- Before the first candidate. -/
def begin (mode : Mode) : Progress :=
  ⟨mode, mode.isBatch, 0, false⟩

/-- Meet one candidate; whether it is selected. -/
def next (progress : Progress) : Bool × Progress :=
  (progress.pending.selectsNext,
    { progress with
      pending := progress.pending.after 1
      candidates := progress.candidates + 1 })

def recordChange (progress : Progress) : Progress :=
  { progress with changed := true }

end Progress

end Whittle

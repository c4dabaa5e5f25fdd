import Whittle.Fault.Capture

/-!
# Attempts

Work that may panic is done behind a barrier: it ends, or a panic comes out of
it.  Either way panics may have been raised before, and those that were caught
on the way are only known to whoever captures them.
-/

namespace Whittle

/-- A panic that is raised. -/
structure Panic where
  payload : Payload
  how : Raise
deriving Repr, DecidableEq

/-- What it means for the captures of its thread. -/
def Panic.act (panic : Panic) : Capture.Act := .panic panic.payload panic.how

/-- How something ends that is done behind a barrier. -/
inductive Ending (α : Type) where
  | ended (value : α)
  /-- A panic came out of it. -/
  | panicked (payload : Payload)
deriving Repr, DecidableEq

/-- Something that is done behind a barrier. -/
structure Attempt (α : Type) where
  /-- The panics that are raised while it lasts, in order. -/
  panics : List Panic
  ending : Ending α
deriving Repr, DecidableEq

variable {α β : Type}

def Ending.map (f : α → β) : Ending α → Ending β
  | .ended value => .ended (f value)
  | .panicked payload => .panicked payload

namespace Attempt

/-- Nothing panics. -/
def quiet (value : α) : Attempt α := ⟨[], .ended value⟩

def map (f : α → β) (attempt : Attempt α) : Attempt β :=
  ⟨attempt.panics, attempt.ending.map f⟩

/-- The attempt with panics that were raised before it. -/
def after (panics : List Panic) (attempt : Attempt α) : Attempt α :=
  { attempt with panics := panics ++ attempt.panics }

end Attempt

end Whittle

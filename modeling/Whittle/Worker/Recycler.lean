import Whittle.Sandbox.Container

/-!
# Replacing containers

Guests cannot be taken out of a container, so the container is replaced as a
whole after a number of requests.  The one that was replaced is kept until it is
reclaimed.
-/

namespace Whittle

variable [Engine]

/-- The active container and what decides when it is replaced. -/
structure Recycler where
  config : SandboxConfig
  supply : Supply
  active : Container
  retired : Option Container
  /-- The requests since the active container was created. -/
  served : Nat
  threshold : Nat

/-- What became of the active container when a request was recorded. -/
inductive Recorded where
  | kept
  | replaced
  /-- It should have been replaced, but no container could be created. -/
  | creationFailed
deriving Repr, DecidableEq

namespace Recycler

/-- Begin with a fresh container. -/
def start (config : SandboxConfig) (threshold : Nat) (supply : Supply) : Recycler :=
  let (active, supply) := Container.create config supply
  ⟨config, supply, active, none, 0, threshold⟩

/-- Put a fresh container into service and retire the active one. -/
def replace (recycler : Recycler) : Recycler :=
  let (fresh, supply) := Container.create recycler.config recycler.supply
  { recycler with supply, active := fresh, retired := some recycler.active, served := 0 }

/--
Count one request.  The active container is replaced once the count exceeds the
threshold, if one can be created; if not, the count is kept, so that the next
request tries again.
-/
def record (recycler : Recycler) (canCreate : Bool) : Recorded × Recycler :=
  let counted := { recycler with served := recycler.served + 1 }
  if counted.served ≤ recycler.threshold then (.kept, counted)
  else if canCreate then (.replaced, counted.replace)
  else (.creationFailed, counted)

/-- Leave identities out that are given to containers elsewhere in the process. -/
def elsewhere (recycler : Recycler) (count : Nat) : Recycler :=
  { recycler with supply := ⟨recycler.supply.next + count⟩ }

/-- Drop the retired container, if there is one. -/
def reclaim (recycler : Recycler) : Recycler :=
  { recycler with retired := none }

/-- Whether a container is retired and not yet reclaimed. -/
def hasRetired (recycler : Recycler) : Bool := recycler.retired.isSome

@[simp]
theorem retired_reclaim (recycler : Recycler) : recycler.reclaim.retired = none := rfl

@[simp]
theorem retired_replace (recycler : Recycler) :
    recycler.replace.retired = some recycler.active := rfl

@[simp]
theorem served_replace (recycler : Recycler) : recycler.replace.served = 0 := rfl

end Recycler

end Whittle

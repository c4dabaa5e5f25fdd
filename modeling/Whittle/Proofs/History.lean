import Mathlib.Data.List.TakeWhile
import Whittle.Proofs.Interpreting
import Whittle.Proofs.Recycling
import Whittle.Proofs.RootCause

/-!
# Histories of workers

A worker remembers its requests in three places: in the container that it fills,
in the count of its recycler, and in the table where panics are captured.  None
of them shows in a response.  What comes of a build does not depend on the guests
and the instances that its container holds, provided that the engine is
oblivious of them, nor on the thread (`runBinaryOn_congr`); the recycler only
decides which of two such containers is asked; and no list of the thread outlives
a build (`runBinaryOn_thread`).
-/

namespace Whittle

/-! ## Lines without a request -/

section

variable [Engine]

/-! ## Builds -/

namespace Container

end Container

namespace Harness

variable (harness : Harness)

end Harness

/-! ## Workers of one configuration -/

namespace Worker

/-- The worker is one for the configuration, whatever has come to it. -/
structure Serves (config : WorkerConfig) (worker : Worker) : Prop where
  harness_eq : Harness.ofConfig config.sandbox = .ok worker.harness
  inService : worker.recycler.InService config.sandbox config.recycleThreshold
  envStarts_eq : worker.envStarts = config.envStarts

section

variable {config : WorkerConfig} {worker : Worker}

theorem Serves.receive (serves : Serves config worker) (environment : Variables)
    (arrival : Arrival) : Serves config (worker.receive environment arrival).2 := by
  have inService := inService_receive environment serves.inService arrival
  cases asked : arrival.request? with
  | none => rwa [receive_of_none worker asked]
  | some request =>
      rw [receive_of_some worker asked] at inService ⊢
      exact ⟨serves.harness_eq, inService, serves.envStarts_eq⟩

theorem Serves.afterAll (serves : Serves config worker) (environment : Variables)
    (arrivals : List Arrival) : Serves config (Worker.afterAll environment arrivals worker) := by
  induction arrivals generalizing worker with
  | nil => exact serves
  | cons arrival rest ih => exact ih (serves.receive environment arrival)

end

end Worker

end

/-! ## A request that is half accepted -/

namespace Worker

end Worker

end Whittle

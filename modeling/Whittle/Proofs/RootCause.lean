import Mathlib.Data.Set.List
import Whittle.Proofs.Loading
import Whittle.Proofs.Scopes
import Whittle.Sandbox.Interpreter

/-!
# Root causes

A run captures the panics of its own thread, and they come before whatever the
call itself reports.  A failed run is blamed on the first of all these faults,
whether the guest could not be started or failed later, and whatever contexts
the failure has passed through; the rest only tells how it unwound.

What the other threads do meanwhile belongs to the thread at work, and nothing is
lost by that: whatever all threads do while a call lasts, there is a thread at
work that meets just this (`exists_thread_of_history`).
-/

namespace Whittle

open Container (CallResult)

/-! ## The messages of one ending -/

/-- What a call that did not return says about its cause. -/
def Container.CallResult.message? : CallResult → Option String
  | .returned _ => none
  | .notLinked problem => some problem.message
  | .notStarted failure | .failed failure => some failure.root.fault.message
  | .noEntry problem => some problem.message

/-- What the end of a call says about its cause, if it is a failure. -/
def Ending.message? : Ending CallResult → Option String
  | .ended result => result.message?
  | .panicked payload => some payload.message

/-! ## Outcomes -/

namespace Harness

variable (harness : Harness)

/-- The outcome of a build: loading it fails, or the call of its entry point ends. -/
def buildOutcome : Except LoadError (Attempt CallResult) → RunOutcome
  | .error error => harness.loadOutcome error
  | .ok call => harness.outcome (Panic.faults call.panics) call.ending

/-- Of all that is captured, only the panics of the call itself show in the outcome. -/
@[simp]
theorem conclude_fst (thread : Thread) (call : Attempt CallResult) :
    (harness.conclude thread call).1 = harness.outcome (Panic.faults call.panics) call.ending := by
  simp [conclude]

section

variable [Engine] (thread : Thread) (container : Container)

theorem runBinaryOn_fst (bytes : List UInt8) :
    (harness.runBinaryOn thread container bytes).1 =
      let loaded := container.loadOn thread bytes
      harness.buildOutcome (loaded.1.map fun entry => (loaded.2.1.invoke entry).1) := by
  rw [runBinaryOn]
  rcases container.loadOn thread bytes with ⟨loaded, holder, left⟩
  cases loaded with
  | error error => rfl
  | ok entry => exact harness.conclude_fst left (holder.invoke entry).1

end

variable {harness}

/-- With a fault to begin with, the end of a call decides only that the run has failed. -/
theorem outcome_cons (first : Fault) (rest : List Fault) {ending : Ending CallResult}
    (failed : ending.message?.isSome) :
    harness.outcome (first :: rest) ending = .ofMessage harness.matcher first.cause.message := by
  cases ending with
  | ended result =>
      cases result with
      | returned value => simp [Ending.message?, CallResult.message?] at failed
      | _ => rfl
  | panicked payload => rfl

theorem outcome_nil {ending : Ending CallResult} {own : String}
    (failed : ending.message? = some own) :
    harness.outcome [] ending = .ofMessage harness.matcher own := by
  cases ending with
  | ended result =>
      cases result with
      | returned value => simp [Ending.message?, CallResult.message?] at failed
      | notLinked problem | notStarted failure | noEntry problem =>
          obtain rfl := Option.some.inj failed
          rfl
      | failed failure =>
          obtain rfl := Option.some.inj failed
          cases root : failure.root <;>
            simp [outcome, CallResult.faults, Failure.chain, RunOutcome.ofFaults, root,
              Cause.fault, Fault.plain, Fault.cause]
  | panicked payload =>
      obtain rfl := Option.some.inj failed
      rfl

/-- Only the fault of a guest that could not be started hides another one. -/
theorem cause_of_panic {fault : Fault} (panicked : fault.kind = .panic) : fault.cause = fault := by
  simp only [Fault.cause, panicked]

theorem outcome_of_message? {panics : List Fault} (captured : ∀ fault ∈ panics, fault.kind = .panic)
    {ending : Ending CallResult} {own : String} (failed : ending.message? = some own) :
    harness.outcome panics ending =
      .ofMessage harness.matcher ((panics.head?.map Fault.message).getD own) := by
  cases panics with
  | nil => exact outcome_nil failed
  | cons first rest =>
      rw [outcome_cons first rest (Option.isSome_of_eq_some failed),
        cause_of_panic (captured first List.mem_cons_self)]
      rfl

variable (harness)

theorem ofMessage_cases (matcher : Pattern) (message : String) :
    RunOutcome.ofMessage matcher message = .assertionFailure message ∨
      RunOutcome.ofMessage matcher message = .otherError message := by
  rw [RunOutcome.ofMessage]
  split
  · exact .inl rfl
  · exact .inr rfl

/-- A run succeeds, or it is blamed on a message. -/
theorem success_or_blamed (panics : List Fault) (ending : Ending CallResult) :
    (∃ result, harness.outcome panics ending = .success result) ∨
      ∃ message, harness.outcome panics ending = .assertionFailure message ∨
        harness.outcome panics ending = .otherError message := by
  have blamed : ∀ faults, ∃ message,
      RunOutcome.ofFaults harness.matcher faults = .assertionFailure message ∨
        RunOutcome.ofFaults harness.matcher faults = .otherError message := by
    intro faults
    cases faults with
    | nil => exact ⟨_, .inr rfl⟩
    | cons first rest => exact ⟨_, ofMessage_cases _ _⟩
  cases ending with
  | ended result =>
      cases result with
      | returned value => exact .inl ⟨value, rfl⟩
      | _ => exact .inr (blamed _)
  | panicked payload => exact .inr (blamed _)

theorem loadOutcome_cases (error : LoadError) :
    (∃ message, harness.loadOutcome error = .assertionFailure message) ∨
      harness.loadOutcome error = .compilationError error.message := by
  rw [loadOutcome]
  split
  · split
    · exact .inl ⟨_, rfl⟩
    · exact .inr rfl
  · exact .inr rfl

theorem buildOutcome_cases (attempt : Except LoadError (Attempt CallResult)) :
    (∃ result, harness.buildOutcome attempt = .success result) ∨
      (∃ message, harness.buildOutcome attempt = .assertionFailure message ∨
        harness.buildOutcome attempt = .otherError message) ∨
      ∃ error, attempt = .error error ∧
        harness.buildOutcome attempt = .compilationError error.message := by
  cases attempt with
  | error error =>
      rcases harness.loadOutcome_cases error with ⟨message, equal⟩ | equal
      · exact .inr (.inl ⟨message, .inl equal⟩)
      · exact .inr (.inr ⟨error, rfl, equal⟩)
  | ok call =>
      rcases harness.success_or_blamed (Panic.faults call.panics) call.ending with
        success | blamed
      · exact .inl success
      · exact .inr (.inl blamed)

/-- A build has no message just if it succeeded, and it fails to compile just if loading fails. -/
theorem errorMessage_buildOutcome (attempt : Except LoadError (Attempt CallResult)) :
    let verdict := harness.buildOutcome attempt
    (verdict.errorMessage = none ↔ ∃ result, verdict = .success result) ∧
      ∀ message, verdict = .compilationError message →
        ∃ error, attempt = .error error ∧ message = error.message := by
  intro verdict
  rcases harness.buildOutcome_cases attempt with
    ⟨result, equal⟩ | ⟨message, equal | equal⟩ | ⟨error, refused, equal⟩ <;>
    simp [verdict, equal, RunOutcome.errorMessage]
  exact ⟨error, refused, rfl⟩

/--
Whatever all threads do while a call lasts, as long as its own thread does
nothing but panic, there is a thread at work that meets just this.
-/
theorem exists_thread_of_history (id : Nat) (table : Capture) {meanwhile : List Capture.Event}
    (busy : ∀ act ∈ Capture.actsOf id meanwhile, act ∈ Set.range Panic.act)
    (ending : Ending CallResult) :
    ∃ thread panics, thread.id = id ∧ thread.capture = table ∧
      Capture.actsOf id meanwhile = panics.map Panic.act ∧
      let finished := ((table.enter id).after meanwhile).perform ⟨id, .finish 0⟩
      harness.conclude thread ⟨panics, ending⟩ =
        (harness.outcome finished.1.faults ending, ⟨id, finished.2, []⟩) := by
  obtain ⟨panics, acts⟩ : ∃ panics, List.map Panic.act panics = Capture.actsOf id meanwhile :=
    (Set.range_list_map Panic.act).ge busy
  obtain ⟨others, same⟩ :=
    Thread.exists_others id (⟨id, .enter 0⟩ :: meanwhile) (.finish 0) table
  rw [Capture.actsOf_cons, if_pos rfl, ← acts] at same
  refine ⟨⟨id, table, others⟩, panics, rfl, rfl, acts.symm, ?_⟩
  simp only [conclude, Thread.capturing, same]
  rfl

/--
A run whose entry point returned succeeds.  Any other one is blamed on the first
panic that was raised on its thread, or else on the root of what the call itself
reports.  So the rest of the panics, the contexts of a failure, the other
threads and what the table held before decide nothing.  A build has no message
exactly if it succeeded, and its compilation failed only if it could not be
loaded.
-/
theorem run_is_blamed_on_root_cause [Engine] (thread : Thread) (panics : List Panic) :
    let captured := Panic.faults panics
    let outcome := fun ending => (harness.conclude thread ⟨panics, ending⟩).1
    (∀ result, outcome (.ended (.returned result)) = .success result) ∧
    (∀ ending own, ending.message? = some own →
      let message := (captured.head?.map Fault.message).getD own
      outcome ending =
        if harness.matcher.isMatch message then .assertionFailure message
        else .otherError message) ∧
    (∀ root inner outer,
      outcome (.ended (.notStarted ⟨root, inner⟩)) = outcome (.ended (.failed ⟨root, outer⟩))) ∧
    (∀ first rest, captured = first :: rest → ∀ others ending other,
      ending.message?.isSome → other.message?.isSome →
      outcome ending = harness.outcome (first :: others) other) ∧
    (∀ ending, outcome ending ≠ .timeout ∧
      (∀ debug release, outcome ending ≠ .outputMismatch debug release) ∧
      ∀ message, outcome ending ≠ .compilationError message) ∧
    (∀ (container : Container) entry, (harness.runOn thread container entry).1 =
      (harness.conclude thread (container.invoke entry).1).1) ∧
    ∀ (container : Container) bytes,
      let loaded := container.loadOn thread bytes
      let verdict := (harness.runBinaryOn thread container bytes).1
      verdict = harness.buildOutcome
        (loaded.1.map fun entry => (loaded.2.1.invoke entry).1) ∧
      (verdict.errorMessage = none ↔ ∃ result, verdict = .success result) ∧
      ∀ message, verdict = .compilationError message →
        ∃ error, loaded.1 = .error error ∧ message = error.message := by
  intro captured outcome
  have panicked : ∀ fault ∈ captured, fault.kind = .panic := fun fault isIn =>
    Panic.kind_of_mem_faults isIn
  have same : ∀ ending, outcome ending = harness.outcome captured ending := fun ending =>
    harness.conclude_fst thread ⟨panics, ending⟩
  refine ⟨fun result => same _, ?_, ?_, ?_, ?_, fun _ _ => rfl, ?_⟩
  · intro ending own failed
    rw [same, outcome_of_message? panicked failed]
    rfl
  · intro root inner outer
    rw [same, same, outcome_of_message? panicked rfl, outcome_of_message? panicked rfl]
  · intro first rest begun others ending other failed otherFailed
    rw [same, begun, outcome_cons first rest failed, outcome_cons first others otherFailed]
  · intro ending
    rw [same]
    rcases success_or_blamed harness captured ending with
      ⟨result, equal⟩ | ⟨message, equal | equal⟩ <;> simp [equal]
  · intro container bytes loaded verdict
    have blamed : verdict = harness.buildOutcome
        (loaded.1.map fun entry => (loaded.2.1.invoke entry).1) :=
      harness.runBinaryOn_fst thread container bytes
    obtain ⟨message, compilation⟩ := harness.errorMessage_buildOutcome
      (loaded.1.map fun entry => (loaded.2.1.invoke entry).1)
    rw [← blamed] at message compilation
    refine ⟨blamed, message, fun text failed => ?_⟩
    obtain ⟨error, refused, same⟩ := compilation text failed
    exact ⟨error, Except.map_eq_error_iff.1 refused, same⟩

/-- A thread that captured something before, while another one panics in its scope. -/
def disturbed : Thread :=
  ⟨1, ⟨[(1, [.plain .trap "old"])]⟩, [[], [⟨2, .panic .unknown (.fresh "elsewhere")⟩]]⟩

theorem run_is_blamed_on_root_cause_disturbed :
    (conclude ⟨.empty⟩ disturbed
      ⟨[⟨.text "first", .fresh "host"⟩, ⟨.text "second", .fresh "host"⟩],
        .ended (.notStarted ⟨.exception "guest", ["call"]⟩)⟩).1 =
      .assertionFailure "first (at host)" :=
  (run_is_blamed_on_root_cause ⟨.empty⟩ disturbed _).2.1 _ "guest" rfl

end Harness

end Whittle

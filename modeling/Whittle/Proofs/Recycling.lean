import Mathlib.Order.Monotone.Basic
import Whittle.Proofs.Loading
import Whittle.Sandbox.Interpreter
import Whittle.Worker.Basic

/-!
# Recycling

A recycler keeps one container in service, whatever is done with it and however
often no other one can be created (`InService.after`).  A worker does the same
few things with its recycler for every request that it answers
(`recycler_receive`), and nothing for a line that it passes over.  So as long
as containers can be created, its requests fall into rows of equal length, one
for each container (`exists_numbering`).
-/

namespace Whittle

section

variable [Engine]

/-! ## What is done with a recycler -/

namespace Recycler

inductive Op where
  | record (canCreate : Bool)
  | reclaim
  /-- Guests are loaded into the active container, and some are run in its store. -/
  | work (guests : List Engine.Code) (store : Engine.Store)
  /-- Containers are created elsewhere in the process. -/
  | elsewhere (count : Nat)

def perform (recycler : Recycler) : Op → Recycler
  | .record canCreate => (recycler.record canCreate).2
  | .reclaim => recycler.reclaim
  | .work guests store =>
      let active := { recycler.active with guests := guests ++ recycler.active.guests, store }
      { recycler with active }
  | .elsewhere count => recycler.elsewhere count

/-- The recycler after some operations. -/
def after (recycler : Recycler) (ops : List Op) : Recycler := ops.foldl perform recycler

/-- The three things that counting a request can come to. -/
theorem record_cases (recycler : Recycler) (canCreate : Bool) :
    let counted := { recycler with served := recycler.served + 1 }
    (recycler.served < recycler.threshold ∧ recycler.record canCreate = (.kept, counted)) ∨
    (recycler.threshold ≤ recycler.served ∧ canCreate = true ∧
      recycler.record canCreate = (.replaced, counted.replace)) ∨
    (recycler.threshold ≤ recycler.served ∧ canCreate = false ∧
      recycler.record canCreate = (.creationFailed, counted)) := by
  intro counted
  by_cases within : recycler.served + 1 ≤ recycler.threshold
  · exact .inl ⟨within, if_pos within⟩
  · refine .inr ?_
    have exceeded : recycler.threshold ≤ recycler.served := by omega
    cases canCreate with
    | true => exact .inl ⟨exceeded, rfl, if_neg within⟩
    | false => exact .inr ⟨exceeded, rfl, if_neg within⟩

/-- A container for the configuration is in service, and all later identities are greater. -/
structure InService (config : SandboxConfig) (threshold : Nat) (recycler : Recycler) : Prop where
  config_eq : recycler.config = config
  threshold_eq : recycler.threshold = threshold
  entryPoint_eq : recycler.active.entryPoint = config.entryPoint
  optLevel_eq : recycler.active.optLevel = config.optLevel
  supplied : recycler.active.id.number < recycler.supply.next

theorem inService_start (config : SandboxConfig) (threshold : Nat) (supply : Supply) :
    InService config threshold (start config threshold supply) where
  config_eq := rfl
  threshold_eq := rfl
  entryPoint_eq := rfl
  optLevel_eq := rfl
  supplied := Nat.lt_succ_self supply.next

section

variable {config : SandboxConfig} {threshold : Nat} {recycler : Recycler}

theorem InService.replace (inService : InService config threshold recycler) :
    InService config threshold recycler.replace where
  config_eq := inService.config_eq
  threshold_eq := inService.threshold_eq
  entryPoint_eq := congrArg SandboxConfig.entryPoint inService.config_eq
  optLevel_eq := congrArg SandboxConfig.optLevel inService.config_eq
  supplied := Nat.lt_succ_self recycler.supply.next

theorem InService.perform (inService : InService config threshold recycler) (op : Op) :
    InService config threshold (recycler.perform op) := by
  cases op with
  | record canCreate =>
      have counted : InService config threshold { recycler with served := recycler.served + 1 } :=
        { inService with supplied := inService.supplied }
      rcases record_cases recycler canCreate with ⟨-, equal⟩ | ⟨-, -, equal⟩ | ⟨-, -, equal⟩
      · rw [Recycler.perform, equal]
        exact counted
      · rw [Recycler.perform, equal]
        exact counted.replace
      · rw [Recycler.perform, equal]
        exact counted
  | reclaim | work guests store => exact { inService with supplied := inService.supplied }
  | elsewhere count =>
      exact { inService with supplied := Nat.lt_add_right count inService.supplied }

theorem InService.after (inService : InService config threshold recycler) (ops : List Op) :
    InService config threshold (recycler.after ops) := by
  induction ops generalizing recycler with
  | nil => exact inService
  | cons op rest ih => exact ih (inService.perform op)

/-- A failure leaves the count above the threshold until a container can be created. -/
theorem exceeded_after {ops : List Op} (failing : ∀ op ∈ ops, op ≠ .record true)
    (exceeded : recycler.threshold < recycler.served) :
    (recycler.after ops).threshold < (recycler.after ops).served := by
  induction ops generalizing recycler with
  | nil => exact exceeded
  | cons op rest ih =>
      obtain ⟨fails, failing⟩ := List.forall_mem_cons.1 failing
      refine ih failing ?_
      cases op with
      | record canCreate =>
          rcases record_cases recycler canCreate with
            ⟨within, -⟩ | ⟨-, created, -⟩ | ⟨-, -, equal⟩
          · exact absurd exceeded (by omega)
          · exact absurd (congrArg Op.record created) fails
          · rw [Recycler.perform, equal]
            exact Nat.lt_succ_of_lt exceeded
      | _ => exact exceeded

theorem record_of_exceeded (exceeded : recycler.threshold < recycler.served) (canCreate : Bool) :
    (recycler.record canCreate).1 = if canCreate then .replaced else .creationFailed := by
  rcases record_cases recycler canCreate with
    ⟨within, -⟩ | ⟨-, created, equal⟩ | ⟨-, failed, equal⟩
  · exact absurd exceeded (by omega)
  · rw [equal, created]
    rfl
  · rw [equal, failed]
    rfl

/-- What counting a request does, and what a failure to create a container means for later. -/
theorem InService.record (inService : InService config threshold recycler) (canCreate : Bool) :
    let recorded := recycler.record canCreate
    (recorded.1 = .kept ↔ recycler.served < threshold) ∧
    (recorded.1 ≠ .creationFailed → recorded.2.served ≤ threshold) ∧
    (recorded.1 = .replaced →
      recorded.2.retired = some recycler.active ∧ recorded.2.active.guests = [] ∧
      recycler.active.id.number < recorded.2.active.id.number) ∧
    (recorded.1 = .creationFailed →
      recorded.2 = { recycler with served := recycler.served + 1 } ∧
      ∀ later, (∀ op ∈ later, op ≠ .record true) → ∀ canCreate,
        ((recorded.2.after later).record canCreate).1 =
          if canCreate then .replaced else .creationFailed) := by
  intro recorded
  have limit := inService.threshold_eq
  rcases recycler.record_cases canCreate with
    ⟨below, kept⟩ | ⟨reached, -, replaced⟩ | ⟨reached, -, failed⟩
  · rw [show recorded = (.kept, { recycler with served := recycler.served + 1 }) from kept]
    refine ⟨?_, fun _ => ?_, nofun, nofun⟩
    · exact iff_of_true rfl (limit ▸ below)
    · exact Nat.le_trans below (Nat.le_of_eq limit)
  · rw [show recorded = (.replaced, { recycler with served := recycler.served + 1 }.replace) from
      replaced]
    refine ⟨?_, fun _ => Nat.zero_le threshold, fun _ => ?_, nofun⟩
    · exact iff_of_false nofun (limit ▸ Nat.not_lt.2 reached)
    · exact ⟨rfl, rfl, inService.supplied⟩
  · rw [show recorded = (.creationFailed, { recycler with served := recycler.served + 1 }) from
      failed]
    refine ⟨?_, fun wrong => absurd rfl wrong, nofun, fun _ => ⟨rfl, ?_⟩⟩
    · exact iff_of_false nofun (limit ▸ Nat.not_lt.2 reached)
    · intro later failing
      exact record_of_exceeded (exceeded_after failing (Nat.lt_succ_of_le reached))

/-- Whether a request is counted. -/
def Op.isRecord : Op → Bool
  | .record _ => true
  | _ => false

theorem served_after_le (ops : List Op) :
    (recycler.after ops).served ≤ recycler.served + ops.countP Op.isRecord := by
  induction ops generalizing recycler with
  | nil => exact Nat.le_refl _
  | cons op rest ih =>
      have step : (recycler.perform op).served ≤
          recycler.served + if op.isRecord then 1 else 0 := by
        cases op with
        | record canCreate =>
            rcases record_cases recycler canCreate with ⟨-, equal⟩ | ⟨-, -, equal⟩ | ⟨-, -, equal⟩
            · simp [Recycler.perform, equal, Op.isRecord]
            · simp [Recycler.perform, equal]
            · simp [Recycler.perform, equal, Op.isRecord]
        | _ => exact Nat.le_refl _
      have run : ((recycler.perform op).after rest).served ≤
          (recycler.perform op).served + rest.countP Op.isRecord := ih
      rw [after, List.foldl_cons, ← after, List.countP_cons]
      omega

end

end Recycler

/-! ## What comes to a worker -/

/-- What happens to the recycler of a worker once it has answered. -/
def Interlude.ops (interlude : Interlude) : List Recycler.Op :=
  [.elsewhere interlude.elsewhere, .record interlude.canCreate, .reclaim]

/-- A line, and what goes on when it has been answered. -/
structure Arrival where
  line : List Char
  interlude : Interlude
deriving Repr, DecidableEq

def Arrival.request? (arrival : Arrival) : Option RunRequest := Worker.requestOf? arrival.line

namespace Worker

/-- Handle what comes to a worker. -/
def receive (worker : Worker) (environment : Variables) (arrival : Arrival) :
    Option RunResponse × Worker :=
  worker.handleLine environment arrival.line arrival.interlude

/-- The worker after everything that came to it. -/
def afterAll (environment : Variables) (arrivals : List Arrival) (worker : Worker) : Worker :=
  arrivals.foldl (fun worker arrival => (worker.receive environment arrival).2) worker

/-- The containers that the answered requests ran in, in order. -/
def ranIn (environment : Variables) : List Arrival → Worker → List ContainerId
  | [], _ => []
  | arrival :: rest, worker =>
      match worker.receive environment arrival with
      | (none, after) => ranIn environment rest after
      | (some _, after) => worker.containerId :: ranIn environment rest after

section

variable {environment : Variables} {arrival : Arrival}

/-- Both builds of a request add their guests, if these are taken in, and change the store. -/
theorem recycler_run (worker : Worker) (environment : Variables) (request : RunRequest) :
    let container := worker.recycler.active
    ∃ store, (worker.run environment request).2.recycler = worker.recycler.perform
      (.work (container.accepted request.release ++ container.accepted request.debug) store) := by
  intro container
  obtain ⟨between, first⟩ :=
    worker.harness.runBinaryOn_container worker.thread container request.debug
  let debug := worker.harness.runBinaryOn worker.thread container request.debug
  obtain ⟨store, second⟩ :=
    worker.harness.runBinaryOn_container debug.2.2 debug.2.1 request.release
  refine ⟨store, ?_⟩
  simp only [run, Recycler.perform]
  rw [second, first, List.append_assoc]
  rfl

theorem receive_of_none (worker : Worker) (skipped : arrival.request? = none) :
    worker.receive environment arrival = (none, worker) := by
  rw [Arrival.request?] at skipped
  rw [receive, handleLine, respond?, skipped]
  rfl

theorem receive_of_some (worker : Worker) {request : RunRequest}
    (asked : arrival.request? = some request) :
    worker.receive environment arrival =
      (some (worker.run environment request).1,
        (worker.run environment request).2.finishRequest arrival.interlude) := by
  rw [Arrival.request?] at asked
  rw [receive, handleLine, respond?, asked]
  rfl

/--
Answering a request fills the active container and counts the request.  Besides
the recycler only the thread of the worker has changed.
-/
theorem receive_worked (worker : Worker) {request : RunRequest}
    (asked : arrival.request? = some request) :
    let container := worker.recycler.active
    let received := worker.receive environment arrival
    ∃ store, received.2 = { worker with
      recycler := worker.recycler.after
        (.work (container.accepted request.release ++ container.accepted request.debug) store ::
          arrival.interlude.ops)
      thread := received.2.thread } := by
  intro container received
  obtain ⟨store, ran⟩ := worker.recycler_run environment request
  refine ⟨store, ?_⟩
  simp only [received]
  rw [receive_of_some worker asked, finishRequest, ran]
  rfl

/-- What happens to the recycler of a worker that answers a request. -/
theorem recycler_receive_of_some (worker : Worker) {request : RunRequest}
    (asked : arrival.request? = some request) :
    ∃ guests store, (worker.receive environment arrival).2.recycler =
      worker.recycler.after (.work guests store :: arrival.interlude.ops) := by
  obtain ⟨store, worked⟩ := worker.receive_worked asked
  exact ⟨_, store, congrArg Worker.recycler worked⟩

theorem ranIn_of_none {rest : List Arrival} (worker : Worker)
    (skipped : arrival.request? = none) :
    ranIn environment (arrival :: rest) worker = ranIn environment rest worker := by
  rw [ranIn, receive_of_none worker skipped]

theorem ranIn_of_some {rest : List Arrival} (worker : Worker) {request : RunRequest}
    (asked : arrival.request? = some request) :
    ranIn environment (arrival :: rest) worker =
      worker.containerId ::
        ranIn environment rest (worker.receive environment arrival).2 := by
  rw [ranIn, receive_of_some worker asked]

end

/-! ## Rows of requests -/

section

variable {environment : Variables} {worker : Worker}

theorem length_ranIn (arrivals : List Arrival) :
    (ranIn environment arrivals worker).length =
      arrivals.countP fun arrival => arrival.request?.isSome := by
  induction arrivals generalizing worker with
  | nil => rfl
  | cons arrival rest ih =>
      cases asked : arrival.request? with
      | none =>
          rw [ranIn_of_none worker asked, ih]
          simp [asked]
      | some request =>
          rw [ranIn_of_some worker asked, List.length_cons, ih]
          simp [asked]

theorem retired_receive (arrival : Arrival) (reclaimed : worker.recycler.retired = none) :
    (worker.receive environment arrival).2.recycler.retired = none := by
  cases asked : arrival.request? with
  | none => rwa [receive_of_none worker asked]
  | some request =>
      rcases recycler_receive_of_some worker asked with ⟨guests, store, equal⟩
      rw [equal]
      rfl

theorem retired_afterAll (arrivals : List Arrival) (reclaimed : worker.recycler.retired = none) :
    (afterAll environment arrivals worker).recycler.retired = none := by
  induction arrivals generalizing worker with
  | nil => exact reclaimed
  | cons arrival rest ih => exact ih (retired_receive arrival reclaimed)

variable {config : SandboxConfig} {threshold : Nat}

theorem inService_receive (environment : Variables)
    (inService : worker.recycler.InService config threshold) (arrival : Arrival) :
    (worker.receive environment arrival).2.recycler.InService config threshold := by
  cases asked : arrival.request? with
  | none => rwa [receive_of_none worker asked]
  | some request =>
      rcases recycler_receive_of_some worker asked with ⟨guests, store, equal⟩
      rw [equal]
      exact inService.after _

/-- A request is counted in the container it ran in, or the next one runs in a later container. -/
theorem recycler_receive (environment : Variables)
    (inService : worker.recycler.InService config threshold)
    (within : worker.recycler.served ≤ threshold) {arrival : Arrival}
    (creatable : arrival.interlude.canCreate = true) {request : RunRequest}
    (asked : arrival.request? = some request) :
    let after := (worker.receive environment arrival).2
    (worker.recycler.served < threshold ∧ after.recycler.served = worker.recycler.served + 1 ∧
      after.containerId = worker.containerId) ∨
    (worker.recycler.served = threshold ∧ after.recycler.served = 0 ∧
      worker.containerId.number < after.containerId.number) := by
  intro after
  rcases recycler_receive_of_some worker asked with ⟨guests, store, received⟩
  let counted := worker.recycler.after
    [.work guests store, .elsewhere arrival.interlude.elsewhere]
  have equal : after.recycler = (counted.record true).2.reclaim := by
    rw [received, ← creatable]
    rfl
  have served : counted.served = worker.recycler.served := rfl
  have limit : counted.threshold = threshold := inService.threshold_eq
  rw [containerId, containerId, equal]
  rcases counted.record_cases true with ⟨below, kept⟩ | ⟨reached, -, replaced⟩ | ⟨-, failed, -⟩
  · refine .inl ⟨by omega, ?_, ?_⟩
    · rw [kept]
      rfl
    · rw [kept]
      rfl
  · refine .inr ⟨by omega, ?_, ?_⟩
    · rw [replaced]
      rfl
    · rw [replaced]
      have below : counted.active.id.number < counted.supply.next := (inService.after _).supplied
      exact below
  · exact absurd failed (by decide)

/-- A numbering with one number put before it. -/
def numberedFrom (first : Nat) (rest : Nat → Nat) : Nat → Nat
  | 0 => first
  | row + 1 => rest row

omit [Engine] in
theorem numberedFrom_strictMono {first : Nat} {rest : Nat → Nat} (mono : StrictMono rest)
    (below : first < rest 0) : StrictMono (numberedFrom first rest) := by
  refine strictMono_nat_of_lt_succ fun row => ?_
  cases row with
  | zero => exact below
  | succ row => exact mono (Nat.lt_succ_self row)

/-- The rows of requests run in containers with ascending numbers. -/
theorem exists_numbering (environment : Variables) {arrivals : List Arrival}
    (creatable : ∀ arrival ∈ arrivals, arrival.interlude.canCreate = true)
    (inService : worker.recycler.InService config threshold)
    (within : worker.recycler.served ≤ threshold) :
    ∃ number : Nat → Nat, StrictMono number ∧ number 0 = worker.containerId.number ∧
      ∀ (i : Nat) (id : ContainerId), (ranIn environment arrivals worker)[i]? = some id →
        id.number = number ((worker.recycler.served + i) / (threshold + 1)) := by
  induction arrivals generalizing worker with
  | nil =>
      refine ⟨fun row => worker.containerId.number + row, ?_, rfl, ?_⟩
      · exact strictMono_nat_of_lt_succ fun row => Nat.lt_succ_self _
      · intro i id found
        simp [ranIn] at found
  | cons arrival rest ih =>
      obtain ⟨here, creatable⟩ := List.forall_mem_cons.1 creatable
      cases asked : arrival.request? with
      | none =>
          rw [ranIn_of_none worker asked]
          exact ih creatable inService within
      | some request =>
          rw [ranIn_of_some worker asked]
          have still := inService_receive environment inService arrival
          rcases recycler_receive environment inService within here asked with
            ⟨below, served, same⟩ | ⟨reached, served, later⟩
          · obtain ⟨number, mono, begun, numbered⟩ := ih creatable still (by omega)
            rw [same] at begun
            refine ⟨number, mono, begun, fun i id found => ?_⟩
            cases i with
            | zero =>
                obtain rfl := Option.some.inj found
                rw [Nat.add_zero, Nat.div_eq_of_lt (by omega), begun]
            | succ i =>
                rw [numbered i id found, served, Nat.add_right_comm, Nat.add_assoc]
          · obtain ⟨number, mono, begun, numbered⟩ := ih creatable still (by omega)
            rw [← begun] at later
            refine ⟨numberedFrom worker.containerId.number number,
              numberedFrom_strictMono mono later, rfl, fun i id found => ?_⟩
            cases i with
            | zero =>
                obtain rfl := Option.some.inj found
                rw [Nat.add_zero, Nat.div_eq_of_lt (by omega)]
                rfl
            | succ i =>
                -- The rest of the row is over: the next request begins the next one.
                have next : (worker.recycler.served + (i + 1)) / (threshold + 1) =
                    i / (threshold + 1) + 1 := by
                  rw [reached, ← Nat.add_div_right i (Nat.succ_pos threshold), Nat.add_left_comm]
                rw [numbered i id found, served, next, Nat.zero_add]
                rfl

/-- Two requests run in the same container exactly if they are in the same row. -/
theorem ranIn_rows {arrivals : List Arrival}
    (creatable : ∀ arrival ∈ arrivals, arrival.interlude.canCreate = true)
    (inService : worker.recycler.InService config threshold)
    (uncounted : worker.recycler.served = 0) {i j : Nat} {first second : ContainerId}
    (atFirst : (ranIn environment arrivals worker)[i]? = some first)
    (atSecond : (ranIn environment arrivals worker)[j]? = some second) :
    (first = second ↔ i / (threshold + 1) = j / (threshold + 1)) ∧
      (i / (threshold + 1) < j / (threshold + 1) → first.number < second.number) := by
  obtain ⟨number, mono, -, numbered⟩ :=
    exists_numbering environment creatable inService (uncounted ▸ Nat.zero_le threshold)
  have firstNumber := numbered i first atFirst
  have secondNumber := numbered j second atSecond
  rw [uncounted, Nat.zero_add] at firstNumber secondNumber
  constructor
  · constructor
    · rintro rfl
      exact mono.injective (firstNumber.symm.trans secondNumber)
    · intro row
      have same : first.number = second.number := by rw [firstNumber, secondNumber, row]
      cases first
      cases second
      exact congrArg ContainerId.mk same
  · intro earlier
    rw [firstNumber, secondNumber]
    exact mono earlier

theorem served_afterAll {arrivals : List Arrival}
    (creatable : ∀ arrival ∈ arrivals, arrival.interlude.canCreate = true)
    (inService : worker.recycler.InService config threshold)
    (within : worker.recycler.served ≤ threshold) :
    (afterAll environment arrivals worker).recycler.served =
      (worker.recycler.served + (ranIn environment arrivals worker).length) %
        (threshold + 1) := by
  induction arrivals generalizing worker with
  | nil => exact (Nat.mod_eq_of_lt (Nat.lt_succ_of_le within)).symm
  | cons arrival rest ih =>
      obtain ⟨here, creatable⟩ := List.forall_mem_cons.1 creatable
      rw [afterAll, List.foldl_cons, ← afterAll]
      cases asked : arrival.request? with
      | none =>
          rw [ranIn_of_none worker asked, receive_of_none worker asked]
          exact ih creatable inService within
      | some request =>
          rw [ranIn_of_some worker asked, List.length_cons]
          have still := inService_receive environment inService arrival
          rcases recycler_receive environment inService within here asked with
            ⟨below, served, -⟩ | ⟨reached, served, -⟩
          · rw [ih creatable still (by omega), served, Nat.add_right_comm, Nat.add_assoc]
          · rw [ih creatable still (by omega), served, reached, Nat.zero_add,
              ← Nat.add_mod_right, Nat.add_left_comm]

end

theorem ofConfig_eq_ok {config : WorkerConfig} {supply : Supply} {thread : Thread}
    {worker : Worker} (created : ofConfig config supply thread = .ok worker) :
    Harness.ofConfig config.sandbox = .ok worker.harness ∧
      worker.recycler = .start config.sandbox config.recycleThreshold supply ∧
      worker.envStarts = config.envStarts ∧ worker.thread = thread := by
  simp only [ofConfig, bind, Except.bind] at created
  cases harness : Harness.ofConfig config.sandbox with
  | error error => simp [harness] at created
  | ok harness =>
      simp only [harness, pure, Except.pure, Except.ok.injEq] at created
      subst created
      exact ⟨rfl, rfl, rfl, rfl⟩

/--
A worker of threshold `t` answers `t + 1` requests in one container and the next
ones in a later one, as long as containers can be created.  Lines without a
request are not counted, and nothing is left to be reclaimed once a line has been
handled.  A recycler of its own, whatever is done with it, replaces the container
exactly when the count exceeds the threshold, and retires the one that was active;
if no container can be created, nothing but the count changes, and every later
request tries again.
-/
theorem recycling_follows_threshold {config : WorkerConfig} {supply : Supply} {thread : Thread}
    {worker : Worker} (created : ofConfig config supply thread = .ok worker) (environment : Variables)
    (arrivals : List Arrival)
    (creatable : ∀ arrival ∈ arrivals, arrival.interlude.canCreate = true) :
    let threshold := config.recycleThreshold
    let ran := ranIn environment arrivals worker
    let after := afterAll environment arrivals worker
    (∀ (i j : Nat) (first second : ContainerId), ran[i]? = some first → ran[j]? = some second →
      (first = second ↔ i / (threshold + 1) = j / (threshold + 1)) ∧
      (i / (threshold + 1) < j / (threshold + 1) → first.number < second.number)) ∧
    ran.length = arrivals.countP (fun arrival => arrival.request?.isSome) ∧
    after.recycler.served = ran.length % (threshold + 1) ∧
    (threshold + 1 < UInt64.size → after.recycler.served + 1 < UInt64.size) ∧
    after.recycler.retired = none ∧
    ∀ sandbox limit source (ops : List Recycler.Op),
      let recycler := (Recycler.start sandbox limit source).after ops
      recycler.served ≤ ops.countP Recycler.Op.isRecord ∧
      ∀ canCreate, let recorded := recycler.record canCreate
        (recorded.1 = .kept ↔ recycler.served < limit) ∧
        (recorded.1 ≠ .creationFailed → recorded.2.served ≤ limit) ∧
        (recorded.1 = .replaced →
          recorded.2.retired = some recycler.active ∧ recorded.2.active.guests = [] ∧
          recycler.active.id.number < recorded.2.active.id.number) ∧
        (recorded.1 = .creationFailed →
          recorded.2 = { recycler with served := recycler.served + 1 } ∧
          ∀ later, (∀ op ∈ later, op ≠ .record true) → ∀ canCreate,
            ((recorded.2.after later).record canCreate).1 =
              if canCreate then .replaced else .creationFailed) := by
  intro threshold ran after
  obtain ⟨-, begun, -, -⟩ := ofConfig_eq_ok created
  have inService : worker.recycler.InService config.sandbox threshold :=
    begun ▸ Recycler.inService_start config.sandbox threshold supply
  have uncounted : worker.recycler.served = 0 := by
    rw [begun]
    rfl
  have within : worker.recycler.served ≤ threshold := uncounted ▸ Nat.zero_le threshold
  have count : after.recycler.served = ran.length % (threshold + 1) := by
    rw [served_afterAll creatable inService within, uncounted, Nat.zero_add]
  refine ⟨?_, length_ranIn arrivals, count, ?_, ?_, ?_⟩
  · intro i j first second atFirst atSecond
    exact ranIn_rows creatable inService uncounted atFirst atSecond
  · intro fits
    have bound : ran.length % (threshold + 1) < threshold + 1 :=
      Nat.mod_lt _ (Nat.succ_pos threshold)
    omega
  · refine retired_afterAll arrivals ?_
    rw [begun]
    rfl
  · intro sandbox limit source ops recycler
    have inService : recycler.InService sandbox limit :=
      (Recycler.inService_start sandbox limit source).after ops
    refine ⟨?_, inService.record⟩
    exact Nat.le_trans (Recycler.served_after_le ops) (Nat.le_of_eq (Nat.zero_add _))

end Worker

end

/-! ## Requests in pairs -/

namespace Worker

/-- Two requests for one container, and every message is one of a failed assertion. -/
def paired : WorkerConfig :=
  { WorkerConfig.standard with
    recycleThreshold := 1
    sandbox := { SandboxConfig.standard with assertionPattern := "" } }

theorem ofConfig_paired [Engine] (supply : Supply) :
    ofConfig paired supply =
      .ok ⟨⟨.empty⟩, .start paired.sandbox 1 supply, paired.envStarts, .alone⟩ := by
  have matcher : Pattern.ofText? "" = some .empty := by decide +kernel
  have harness : Harness.ofConfig paired.sandbox = .ok ⟨.empty⟩ := by
    simp [Harness.ofConfig, paired, matcher]
  rw [ofConfig, harness]
  rfl

/-- Three requests with a blank line between them, and other containers before the third. -/
def threeRequests : List Arrival :=
  let request := (RunRequest.toJson ⟨[], []⟩).toText.toList
  [⟨request, .quiet⟩, ⟨[' '], .quiet⟩, ⟨request, ⟨3, true⟩⟩, ⟨request, .quiet⟩]

theorem recycling_follows_threshold_paired :
    let worker : Worker := ⟨⟨.empty⟩, .start paired.sandbox 1 ⟨5⟩, paired.envStarts, .alone⟩
    let ran := ranIn .empty threeRequests worker
    let after := afterAll .empty threeRequests worker
    ofConfig paired ⟨5⟩ = .ok worker ∧
    (∀ arrival ∈ threeRequests, arrival.interlude.canCreate = true) ∧
    ran[1]? = some ⟨5⟩ ∧ ran[2]? = some ⟨9⟩ ∧ (ContainerId.mk 5 = ⟨9⟩ ↔ 1 / 2 = 2 / 2) ∧
    ran.length = 3 ∧ after.recycler.served = ran.length % 2 ∧ after.recycler.retired = none := by
  intro worker ran after
  have created : ofConfig paired ⟨5⟩ = .ok worker := ofConfig_paired ⟨5⟩
  have creatable : ∀ arrival ∈ threeRequests, arrival.interlude.canCreate = true := by decide +kernel
  have second : ran[1]? = some ⟨5⟩ := by decide +kernel
  have third : ran[2]? = some ⟨9⟩ := by decide +kernel
  rcases recycling_follows_threshold created .empty threeRequests creatable with
    ⟨rows, -, served, -, retired, -⟩
  exact ⟨created, creatable, second, third, (rows 1 2 _ _ second third).1, by decide +kernel,
    served, retired⟩

end Worker

end Whittle

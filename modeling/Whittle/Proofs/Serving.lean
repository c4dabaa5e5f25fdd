import Whittle.Proofs.Lines
import Whittle.Sandbox.Interpreter

/-!
# Serving a stream

The loop over a stream takes requests apart and counts them on its own, beside
the function that handles one line.  Both come to the same: as long as the
answers can be written, the loop ends with the worker that handling the lines
one after the other ends with, and what it has written is their responses, each
on a line that is followed by the word on a line.

A guest chooses the messages of its errors but not the lines of a response.
Whatever a message is, the response is one line, and this line is not the word,
so that a reader who counts lines finds every answer.
-/

namespace Whittle

/-! ## Responses as lines -/

namespace RunResponse

theorem newline_not_mem_toText (response : RunResponse) :
    '\n' ∉ response.toText.toList := by
  rw [toText, Json.toText, String.toList_ofList]
  exact response.toJson.newline_not_mem_write

/-- A response opens with a brace. -/
theorem toText_ne_sentinel (response : RunResponse) : response.toText ≠ sentinel := by
  intro same
  have texts := congrArg String.toList same
  rw [toText, Json.toText, String.toList_ofList, toJson, Json.write] at texts
  exact absurd (List.head_eq_of_cons_eq texts) (by decide)

end RunResponse

/-- The lines that answer requests: every response, and the word after it. -/
def answerLines (responses : List RunResponse) : List String :=
  responses.flatMap fun response => [response.toText, sentinel]

theorem answerLines_cons (response : RunResponse) (rest : List RunResponse) :
    answerLines (response :: rest) = response.toText :: sentinel :: answerLines rest := rfl

theorem length_answerLines (responses : List RunResponse) :
    (answerLines responses).length = 2 * responses.length := by
  induction responses with
  | nil => rfl
  | cons response rest ih =>
      simp only [answerLines_cons, List.length_cons, ih]
      omega

theorem newline_not_mem_answerLines (responses : List RunResponse) :
    ∀ line ∈ answerLines responses, '\n' ∉ line.toList := by
  induction responses with
  | nil => exact List.forall_mem_nil _
  | cons response rest ih =>
      rw [answerLines_cons, List.forall_mem_cons, List.forall_mem_cons]
      exact ⟨response.newline_not_mem_toText, by decide, ih⟩

theorem isCut_lineBytes {lines : List String}
    (clean : ∀ line ∈ lines, '\n' ∉ line.toList) :
    IsCut (lines.flatMap lineBytes) (lines.map lineBytes) := by
  have unbroken : ∀ text ∈ lines.map fun line => Text.Utf8.encode line.toList,
      lineFeed ∉ text := by
    intro text isIn
    rcases List.mem_map.1 isIn with ⟨line, isLine, rfl⟩
    exact Text.Utf8.lineFeed_not_mem_encode (clean line isLine)
  have cut := isCut_flatMap unbroken
  rw [List.flatMap_map, List.map_map] at cut
  exact cut

/-! ## Writing to the end -/

namespace Outflow

/-- Whether the bytes can be written to the end. -/
def HasRoomFor (outflow : Outflow) (bytes : List UInt8) : Prop :=
  ∀ room ∈ outflow.room, outflow.written.length + bytes.length ≤ room

instance (outflow : Outflow) (bytes : List UInt8) : Decidable (outflow.HasRoomFor bytes) :=
  inferInstanceAs
    (Decidable (∀ room ∈ outflow.room, outflow.written.length + bytes.length ≤ room))

/-- After bytes were written to the end and flushed. -/
def sent (outflow : Outflow) (bytes : List UInt8) : Outflow :=
  { outflow with written := outflow.written ++ bytes }.flush

@[simp]
theorem written_sent (outflow : Outflow) (bytes : List UInt8) :
    (outflow.sent bytes).written = outflow.written ++ bytes := rfl

/-- Room for bytes is room for the first of them, and then for the rest. -/
theorem HasRoomFor.of_append {outflow : Outflow} {first rest : List UInt8}
    (roomy : outflow.HasRoomFor (first ++ rest)) :
    outflow.HasRoomFor first ∧ (outflow.sent first).HasRoomFor rest := by
  constructor
  · intro room limited
    have fits := roomy room limited
    rw [List.length_append] at fits
    omega
  · intro room limited
    have fits := roomy room limited
    rw [List.length_append] at fits
    rw [written_sent, List.length_append]
    omega

theorem send_eq_sent {outflow : Outflow} {bytes : List UInt8}
    (roomy : outflow.HasRoomFor bytes) : outflow.send bytes = (none, outflow.sent bytes) := by
  rcases outflow with ⟨written, flushes, limit⟩
  cases limit with
  | none => rfl
  | some room =>
      have fits : written.length + bytes.length ≤ room := roomy room rfl
      have whole : bytes.take (room - written.length) = bytes :=
        List.take_of_length_le (by omega)
      simp [send, write, whole, sent]

/-- After lines were sent one after the other. -/
def sentLines (outflow : Outflow) (lines : List String) : Outflow :=
  lines.foldl (fun outflow line => outflow.sent (lineBytes line)) outflow

theorem written_sentLines (outflow : Outflow) (lines : List String) :
    (outflow.sentLines lines).written = outflow.written ++ lines.flatMap lineBytes := by
  induction lines generalizing outflow with
  | nil => simp [sentLines]
  | cons line rest ih =>
      rw [sentLines, List.foldl_cons, ← sentLines, ih, written_sent, List.append_assoc,
        List.flatMap_cons]

end Outflow

/-! ## The loop -/

namespace Worker

section

variable [Engine]

/--
Handle lines one after the other: the responses in order, and the worker
afterwards.  There is an interlude for each line.
-/
def handleLines (environment : Variables) :
    List (List UInt8) → List Interlude → Worker → List RunResponse × Worker
  | [], _, worker => ([], worker)
  | line :: rest, interludes, worker =>
      let (response, worker) := worker.handleLine environment (Text.Utf8.decodeLossy line)
        (interludes.headD .quiet)
      let (responses, worker) := handleLines environment rest interludes.tail worker
      (response.toList ++ responses, worker)

/--
The loop over some lines ends as handling them does.  The induction is on the
lines; that there is room for all answers passes on to the answers not yet sent.
-/
theorem serveLines_eq_handleLines {environment : Variables} {pieces : List (List UInt8)}
    {interludes : List Interlude} {worker : Worker} {outflow : Outflow}
    (roomy : outflow.HasRoomFor
      ((answerLines (handleLines environment pieces interludes worker).1).flatMap lineBytes)) :
    serveLines environment pieces worker outflow interludes =
      ⟨none, (handleLines environment pieces interludes worker).2,
        outflow.sentLines (answerLines (handleLines environment pieces interludes worker).1)⟩ := by
  induction pieces generalizing worker outflow interludes with
  | nil => rfl
  | cons line rest ih =>
      cases replied : worker.respond? environment (Text.Utf8.decodeLossy line) with
      | none =>
          have skipped : handleLines environment (line :: rest) interludes worker =
              handleLines environment rest interludes.tail worker := by
            simp [handleLines, handleLine, replied]
          rw [skipped] at roomy ⊢
          rw [serveLines, replied]
          exact ih roomy
      | some answer =>
          rcases answer with ⟨response, after⟩
          let counted := after.finishRequest (interludes.headD .quiet)
          have handled : handleLines environment (line :: rest) interludes worker =
              (response :: (handleLines environment rest interludes.tail counted).1,
                (handleLines environment rest interludes.tail counted).2) := by
            simp [handleLines, handleLine, replied, counted]
          rw [handled] at roomy ⊢
          rw [answerLines_cons, List.flatMap_cons, List.flatMap_cons] at roomy
          rcases roomy.of_append with ⟨fitsText, roomy⟩
          rcases roomy.of_append with ⟨fitsWord, roomy⟩
          rw [serveLines, replied]
          simp only [deliver, Outflow.send_eq_sent fitsText, Outflow.send_eq_sent fitsWord]
          exact ih roomy

/--
Serving a stream is handling its pieces: the worker is the same, every response
is written on a line before a line with the word, and nothing else is written.
No text of a response breaks these lines or looks like the word.
-/
theorem serve_eq_handleLines (worker : Worker) (environment : Variables) (bytes : List UInt8)
    (interludes : List Interlude) (outflow : Outflow)
    (roomy : outflow.HasRoomFor
      ((answerLines (handleLines environment (Inflow.lines ⟨bytes, none⟩) interludes worker).1
        ).flatMap lineBytes)) :
    let pieces := Inflow.lines ⟨bytes, none⟩
    let handled := handleLines environment pieces interludes worker
    let served := worker.serve environment ⟨bytes, none⟩ outflow interludes
    let output := (answerLines handled.1).flatMap lineBytes
    IsCut bytes pieces ∧
    served.failure = none ∧
    served.worker = handled.2 ∧
    served.outflow.written = outflow.written ++ output ∧
    (∀ lines, IsCut output lines ↔ lines = (answerLines handled.1).map lineBytes) ∧
    (answerLines handled.1).length = 2 * handled.1.length ∧
    ∀ debug release snapshot,
      '\n' ∉ (RunResponse.ofOutcomes debug release snapshot).toText.toList ∧
        (RunResponse.ofOutcomes debug release snapshot).toText ≠ sentinel := by
  intro pieces handled served output
  have ended : served = ⟨none, handled.2, outflow.sentLines (answerLines handled.1)⟩ := by
    simp only [served, serve, serveLines_eq_handleLines roomy]
    rfl
  refine ⟨isCut_lines bytes, by rw [ended], by rw [ended], ?_, ?_, length_answerLines _, ?_⟩
  · rw [ended]
    exact outflow.written_sentLines _
  · intro lines
    have cut := isCut_lineBytes (newline_not_mem_answerLines handled.1)
    rw [isCut_iff, ← isCut_iff.1 cut, eq_comm]
  · intro debug release snapshot
    exact ⟨RunResponse.newline_not_mem_toText _, RunResponse.toText_ne_sentinel _⟩

end

/-- A worker that takes every message for one of a failed assertion. -/
def suspicious : Worker := ⟨⟨.empty⟩, .start .standard 100 .full, [], .alone⟩

/-- An empty line, and a request whose builds are both empty on a line that is not ended. -/
def unendedRequest : List UInt8 :=
  lineFeed :: Text.Utf8.encode (RunRequest.toJson ⟨[], []⟩).toText.toList

theorem serve_eq_handleLines_unended :
    let handled := handleLines .empty (Inflow.lines ⟨unendedRequest, none⟩) [] suspicious
    let served := suspicious.serve .empty ⟨unendedRequest, none⟩ (.ofRoom none)
    (Outflow.ofRoom none).HasRoomFor ((answerLines handled.1).flatMap lineBytes) ∧
    handled.1.length = 1 ∧ (answerLines handled.1).length = 2 ∧
    served.failure = none ∧ served.worker = handled.2 ∧
    served.outflow.written =
      (Outflow.ofRoom none).written ++ (answerLines handled.1).flatMap lineBytes := by
  intro handled served
  have roomy : (Outflow.ofRoom none).HasRoomFor ((answerLines handled.1).flatMap lineBytes) := by
    intro room limited
    exact absurd limited (Option.not_mem_none room)
  have answered : handled.1.length = 1 := by decide +kernel
  rcases serve_eq_handleLines suspicious .empty unendedRequest [] (.ofRoom none) roomy with
    ⟨-, ended, same, output, -, count, -⟩
  exact ⟨roomy, answered, count.trans (congrArg (2 * ·) answered), ended, same, output⟩

end Worker

end Whittle

import Whittle.Proofs.Base64
import Whittle.Proofs.Records
import Whittle.Worker.Message

/-!
# Messages are faithful

Requests, responses and outcomes are read back as they were written.  A request
carries two builds as text, and there is one text for each: whoever sends
another one is not understood, so two different requests never run the same
builds.
-/

namespace Whittle

open Text

/-! ## Variables -/

namespace Variables

/-- A variable whose name comes after all others is placed at the end. -/
theorem place_eq_append {name : String} (value : String) {entries : List (String × String)}
    (last : ∀ entry ∈ entries, entry.1 < name) :
    place name value entries = entries ++ [(name, value)] := by
  induction entries with
  | nil => rfl
  | cons first rest ih =>
      rcases List.forall_mem_cons.mp last with ⟨before, ofRest⟩
      rw [place, if_neg (String.lt_asymm before), if_pos before, ih ofRest, List.cons_append]

/-- Inserting variables in ascending order keeps them as they come. -/
theorem foldl_insert_toList (environment : Variables) (later : List (String × String))
    (ascending : (environment.toList ++ later).Pairwise fun first second => first.1 < second.1) :
    (later.foldl (fun known (name, value) => known.insert name value) environment).toList =
      environment.toList ++ later := by
  induction later generalizing environment with
  | nil => simp
  | cons entry rest ih =>
      rcases entry with ⟨name, value⟩
      have placed : (environment.insert name value).toList =
          environment.toList ++ [(name, value)] :=
        place_eq_append value fun known member =>
          (List.pairwise_append.mp ascending).2.2 known member (name, value)
            (List.mem_cons_self ..)
      rw [List.foldl_cons, ih _ (by simpa [placed] using ascending), placed]
      simp

theorem ofList_toList (environment : Variables) : ofList environment.toList = environment := by
  have same := foldl_insert_toList empty environment.toList environment.ascending
  rcases environment with ⟨entries, ascending⟩
  rw [ofList, Variables.mk.injEq]
  exact same

theorem ofJson?_toJson (environment : Variables) :
    ofJson? environment.toJson = some environment := by
  have entries : (environment.toList.map fun entry => (entry.1, Json.str entry.2)).mapM
      (fun field => do return (field.1, ← field.2.string?)) = some environment.toList := by
    induction environment.toList with
    | nil => rfl
    | cons entry rest ih =>
        rw [List.map_cons, List.mapM_cons, ih]
        rfl
  have read : ofJson? environment.toJson = some (ofList environment.toList) :=
    congrArg (·.bind fun entries => some (ofList entries)) entries
  rw [read, ofList_toList]

end Variables

/-! ## Requests -/

namespace RunRequest

theorem bytesOfJson?_bytesToJson (bytes : List UInt8) :
    bytesOfJson? (bytesToJson bytes) = some bytes := by
  simp [bytesOfJson?, bytesToJson, Json.string?, Base64.decode?_encode]

theorem ofJson?_toJson (request : RunRequest) : ofJson? request.toJson = some request := by
  have read : ofJson? request.toJson = (do
      return ⟨← bytesOfJson? (bytesToJson request.debug),
        ← bytesOfJson? (bytesToJson request.release)⟩) := rfl
  simp [read, bytesOfJson?_bytesToJson]

/-- Bytes are read from the one text that they are written as. -/
theorem eq_bytesToJson_of_bytesOfJson? {json : Json} {bytes : List UInt8}
    (read : bytesOfJson? json = some bytes) : json = bytesToJson bytes := by
  rcases Option.bind_eq_some_iff.mp read with ⟨text, isText, decoded⟩
  obtain rfl : json = .str text := by
    cases json <;> simp_all [Json.string?]
  rw [bytesToJson, (Base64.decode?_eq_some_iff ..).mp decoded, String.ofList_toList]

/-- The members of an object that is read as a request are those that it is written with. -/
theorem filter_of_ofJson? {fields : List (String × Json)} {request : RunRequest}
    (read : ofJson? (.obj fields) = some request) :
    fields.filter (·.1 == "Debug") = [("Debug", bytesToJson request.debug)] ∧
      fields.filter (·.1 == "Release") = [("Release", bytesToJson request.release)] := by
  rcases Option.bind_eq_some_iff.mp read with ⟨slots, found, read⟩
  split at read
  · next debug release =>
      simp only [Option.bind_eq_bind, Option.bind_eq_some_iff] at read
      rcases read with ⟨ofDebug, debugRead, ofRelease, releaseRead, same⟩
      obtain rfl : ⟨ofDebug, ofRelease⟩ = request := Option.some.inj same
      have filled : Json.slotNamed? "Debug" fields = some (some debug) ∧
          Json.slotNamed? "Release" fields = some (some release) := by
        simpa [Json.slots?, Option.bind_eq_some_iff] using found
      rw [Json.filter_of_slotNamed? filled.1, Json.filter_of_slotNamed? filled.2,
        eq_bytesToJson_of_bytesOfJson? debugRead, eq_bytesToJson_of_bytesOfJson? releaseRead]
      exact ⟨rfl, rfl⟩
  · cases read

end RunRequest

namespace RunOutcome

theorem ofJson?_toJson (outcome : RunOutcome) : ofJson? outcome.toJson = some outcome := by
  cases outcome with
  | success fingerprint =>
      have read : ofJson? (toJson (.success fingerprint)) =
          (do return .success (← Json.int32? (.int fingerprint.toInt))) := rfl
      simp [read]
  | outputMismatch debug release =>
      have read : ofJson? (toJson (.outputMismatch debug release)) =
          (do
            let debug ← Json.int32? (.int debug.toInt)
            return .outputMismatch debug (← Json.int32? (.int release.toInt))) := rfl
      simp [read]
  | timeout => rfl
  | assertionFailure message => rfl
  | otherError message => rfl
  | compilationError message => rfl

end RunOutcome

namespace RunResponse

theorem ofJson?_toJson (response : RunResponse) : ofJson? response.toJson = some response := by
  have read : ofJson? response.toJson = (do
      return { response with
        debugOutput := ← Json.int32? (.int response.debugOutput.toInt)
        releaseOutput := ← Json.int32? (.int response.releaseOutput.toInt)
        environmentVariables := ← Variables.ofJson? response.environmentVariables.toJson }) := by
    -- the two messages are the fields that may be missing
    rcases response with ⟨_, _ | _, _, _ | _, _, _, _, _⟩ <;> rfl
  simp [read, Variables.ofJson?_toJson]

end RunResponse

/-! ## All messages -/

/--
The messages are faithful.  What is written is read back; and an object that is
read as a request holds the very strings that the request is written with, for
every row of bytes has one spelling: the padded one of the standard alphabet with
zeros for the bits left over.
-/
theorem messages_are_faithful :
    (∀ request : RunRequest, RunRequest.ofJson? request.toJson = some request) ∧
    (∀ (fields : List (String × Json)) (request : RunRequest),
      RunRequest.ofJson? (.obj fields) = some request →
        ∃ debug release,
          fields.filter (·.1 == "Debug") = [("Debug", .str debug)] ∧
            fields.filter (·.1 == "Release") = [("Release", .str release)] ∧
              request.toJson = .obj [("Debug", .str debug), ("Release", .str release)]) ∧
    (∀ bytes, ∃ spelling, ∀ text,
      RunRequest.bytesOfJson? (.str text) = some bytes ↔ text = spelling) ∧
    (∀ text, (RunRequest.bytesOfJson? (.str text)).isSome ↔ Base64.Canonical text.toList) ∧
    (∀ response : RunResponse, RunResponse.ofJson? response.toJson = some response) ∧
    (∀ outcome : RunOutcome, RunOutcome.ofJson? outcome.toJson = some outcome) := by
  refine ⟨RunRequest.ofJson?_toJson, ?_, ?_, ?_, RunResponse.ofJson?_toJson,
    RunOutcome.ofJson?_toJson⟩
  · intro fields request read
    rcases RunRequest.filter_of_ofJson? read with ⟨ofDebug, ofRelease⟩
    exact ⟨_, _, ofDebug, ofRelease, rfl⟩
  · intro bytes
    refine ⟨String.ofList (Base64.encode bytes), fun text => ?_⟩
    constructor
    · intro read
      exact Json.str.inj (RunRequest.eq_bytesToJson_of_bytesOfJson? read)
    · rintro rfl
      exact RunRequest.bytesOfJson?_bytesToJson bytes
  · intro text
    exact Base64.isSome_decode?_iff text.toList

/-- A request among other members, and the text it stands in. -/
theorem messages_are_faithful_header :
    let header : RunRequest := ⟨[0x00, 0x61, 0x73, 0x6d], []⟩
    let fields : List (String × Json) :=
      [("Id", .int 7), ("Release", .str ""), ("Debug", .str "AGFzbQ==")]
    RunRequest.ofJson? (.obj fields) = some header ∧
      ∃ debug release,
        fields.filter (·.1 == "Debug") = [("Debug", .str debug)] ∧
          fields.filter (·.1 == "Release") = [("Release", .str release)] ∧
            header.toJson = .obj [("Debug", .str debug), ("Release", .str release)] := by
  intro header fields
  have read : RunRequest.ofJson? (.obj fields) = some header := by rfl
  exact ⟨read, messages_are_faithful.2.1 fields header read⟩

end Whittle

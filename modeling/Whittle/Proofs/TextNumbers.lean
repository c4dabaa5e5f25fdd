import Whittle.Json.Reader
import Whittle.Proofs.FiniteNumbers

/-!
# Numbers in JSON texts

The numbers that a text stands for are integers of 64 bits, with or without
sign, and finite floating-point numbers.  The token machine makes no others, and
the machine that puts the tokens together only passes them on.
-/

namespace Whittle.Json

/-! ## Numbers in values -/

mutual

/--
Whether every number in the value is one that a text can stand for: an integer of
64 bits, with or without sign, or a finite floating-point number.
-/
def numbersFit : Json → Bool
  | .int value => -(2 ^ 63) ≤ value && value < 2 ^ 64
  | .float value => value.isFinite
  | .arr items => itemsFit items
  | .obj fields => fieldsFit fields
  | _ => true

/-- Whether every number in every item fits. -/
def itemsFit : List Json → Bool
  | [] => true
  | item :: rest => numbersFit item && itemsFit rest

/-- Whether every number in every member fits. -/
def fieldsFit : List (String × Json) → Bool
  | [] => true
  | (_, value) :: rest => numbersFit value && fieldsFit rest

end

theorem itemsFit_iff {items : List Json} :
    itemsFit items = true ↔ ∀ item ∈ items, item.numbersFit = true := by
  induction items with
  | nil => simp [itemsFit]
  | cons item rest ih => simp [itemsFit, ih]

theorem fieldsFit_iff {fields : List (String × Json)} :
    fieldsFit fields = true ↔ ∀ field ∈ fields, field.2.numbersFit = true := by
  induction fields with
  | nil => simp [fieldsFit]
  | cons field rest ih => simp [fieldsFit, ih]

theorem numbersFit_int {value : Int} :
    (Json.int value).numbersFit = true ↔ -(2 ^ 63) ≤ value ∧ value < 2 ^ 64 := by
  simp [numbersFit]

/-- A floating-point number that is read from a value is finite. -/
theorem isFinite_of_float? {json : Json} {value : Decimal.Binary64}
    (fits : json.numbersFit = true) (read : json.float? = some value) :
    value.isFinite = true := by
  cases json with
  | float own => exact Option.some.inj read ▸ fits
  | int own =>
      have bounds := numbersFit_int.mp fits
      exact Option.some.inj read ▸ Decimal.Binary64.isFinite_ofInt (by omega)
  | _ => cases read

/-! ## Numbers in texts -/

theorem appendDigits_le {significand : Nat} (le : significand ≤ greatestSignificand)
    (digits : List Char) : (appendDigits significand digits).1 ≤ greatestSignificand := by
  fun_induction appendDigits significand digits with
  | case1 => exact le
  | case2 significand digit rest next small ih => exact ih small
  | case3 => exact le

theorem Numeral.numbersFit_toFloat (numeral : Numeral) : numeral.toFloat.numbersFit = true := by
  have whole := appendDigits_le (Nat.zero_le _) numeral.whole
  have significand := appendDigits_le whole (numeral.fraction.getD [])
  simp only [toFloat]
  split
  · next value scaled =>
      exact Decimal.isFinite_of_scaled? (significand.trans (by decide)) scaled
  · rfl

theorem Numeral.numbersFit_value (numeral : Numeral) : numeral.value.numbersFit = true := by
  simp only [value]
  split
  · split
    · split
      · next size =>
          have half : UInt64.size / 2 = 2 ^ 63 := rfl
          exact numbersFit_int.mpr (by omega)
      · exact numeral.numbersFit_toFloat
    · split
      · next size =>
          have greatest : greatestSignificand = 2 ^ 64 - 1 := rfl
          exact numbersFit_int.mpr (by omega)
      · exact numeral.numbersFit_toFloat
  · exact numeral.numbersFit_toFloat

/-- Whether the numbers of a token fit. -/
def Token.Fits : Token → Prop
  | .scalar value => value.numbersFit = true
  | _ => True

theorem fits_of_bareToken? {text : List Char} {token : Token}
    (read : bareToken? text = some token) : token.Fits := by
  simp only [bareToken?] at read
  split at read
  · exact Option.some.inj read ▸ rfl
  split at read
  · exact Option.some.inj read ▸ rfl
  split at read
  · exact Option.some.inj read ▸ rfl
  · rcases Option.map_eq_some_iff.mp read with ⟨numeral, -, rfl⟩
    exact numeral.numbersFit_value

theorem fits_of_punctuation? {c : Char} {token : Token} (read : punctuation? c = some token) :
    token.Fits := by
  unfold punctuation? at read
  repeat' split at read
  all_goals
    first
    | exact Option.some.inj read ▸ trivial
    | cases read

theorem fits_of_lexBetween {c : Char} {tokens : List Token} {next : Lexing}
    (read : lexBetween c = some (tokens, next)) : ∀ token ∈ tokens, token.Fits := by
  unfold lexBetween at read
  split at read
  · simp_all
  split at read
  · simp_all
  split at read
  · simp_all
  · rcases Option.map_eq_some_iff.mp read with ⟨token, isToken, same⟩
    obtain ⟨rfl, -⟩ := Prod.mk.inj same
    simpa using fits_of_punctuation? isToken

/-- Only the end of a number makes a token that holds one. -/
theorem fits_of_lexStep {c : Char} {state next : Lexing} {tokens : List Token}
    (read : lexStep c state = some (tokens, next)) : ∀ token ∈ tokens, token.Fits := by
  cases state with
  | between => exact fits_of_lexBetween read
  | bare characters =>
      simp only [lexStep, Option.bind_eq_bind, Option.pure_def] at read
      split at read
      · simp_all
      · simp only [Option.bind_eq_some_iff] at read
        rcases read with ⟨token, isToken, ⟨others, after⟩, between, same⟩
        obtain ⟨rfl, -⟩ := Prod.mk.inj (Option.some.inj same)
        exact List.forall_mem_cons.mpr ⟨fits_of_bareToken? isToken, fits_of_lexBetween between⟩
  | quoted units =>
      simp only [lexStep] at read
      split at read
      · obtain ⟨rfl, -⟩ := Prod.mk.inj (Option.some.inj read)
        simp [Token.Fits]
      split at read
      · simp_all
      split at read
      · cases read
      · simp_all
  | escaped units =>
      simp only [lexStep] at read
      split at read
      · simp_all
      · rcases Option.map_eq_some_iff.mp read with ⟨char, -, same⟩
        obtain ⟨rfl, -⟩ := Prod.mk.inj same
        simp
  | coded units value missing =>
      simp only [lexStep, Option.bind_eq_bind, Option.bind_eq_some_iff] at read
      rcases read with ⟨digit, -, same⟩
      split at same <;> simp_all

theorem fits_of_tokensFrom {state : Lexing} {text : List Char} {tokens : List Token}
    (read : tokensFrom state text = some tokens) : ∀ token ∈ tokens, token.Fits := by
  induction text generalizing state tokens with
  | nil =>
      cases state with
      | between => simp_all [tokensFrom]
      | bare characters =>
          rcases Option.map_eq_some_iff.mp read with ⟨token, isToken, rfl⟩
          simpa using fits_of_bareToken? isToken
      | _ => cases read
  | cons c rest ih =>
      simp only [tokensFrom, Option.bind_eq_bind, Option.bind_eq_some_iff] at read
      rcases read with ⟨⟨own, next⟩, step, later, others, same⟩
      obtain rfl := Option.some.inj same
      exact List.forall_mem_append.mpr ⟨fits_of_lexStep step, ih others⟩

/-- Whether the numbers in a container that is not closed yet fit. -/
def Frame.Fits : Frame → Prop
  | .array items => itemsFit items = true
  | .object fields _ _ => fieldsFit fields = true

/-- Whether the numbers of all values that the machine holds fit. -/
structure Assembly.Fits (state : Assembly) : Prop where
  around : ∀ frame ∈ state.around, frame.Fits
  result : ∀ value, state.expected = .nothing value → value.numbersFit = true

namespace Assembly

theorem fits_deliver {value : Json} (fits : value.numbersFit = true) {around : List Frame}
    (frames : ∀ frame ∈ around, frame.Fits) : (deliver value around).Fits := by
  fun_cases deliver value around with
  | case1 => exact ⟨frames, fun _ same => Expected.nothing.inj same ▸ fits⟩
  | case2 | case3 | case4 => constructor <;> simp_all [Frame.Fits, itemsFit, fieldsFit]

theorem fits_close (limit : Nat) {value : Json} (fits : value.numbersFit = true)
    {outer : List Frame} (frames : ∀ frame ∈ outer, frame.Fits) :
    (close limit value outer).Fits := by
  refine fits_deliver ?_ frames
  split
  · exact fits
  · rfl

variable {limit : Nat} {around : List Frame} {token : Token} {next : Assembly}

theorem fits_of_start? (frames : ∀ frame ∈ around, frame.Fits) (fits : token.Fits)
    (started : start? around token = some next) : next.Fits := by
  fun_cases start? around token with
  | case1 value => exact Option.some.inj started ▸ fits_deliver fits frames
  | case2 value => exact Option.some.inj started ▸ fits_deliver rfl frames
  | case3 => exact Option.some.inj started ▸ fits_deliver rfl frames
  | case4 | case5 =>
      obtain rfl := Option.some.inj started
      constructor <;> simp_all [Frame.Fits, itemsFit, fieldsFit]
  | case6 => simp_all [start?]

theorem fits_of_finish? (frames : ∀ frame ∈ around, frame.Fits)
    (finished : finish? limit around token = some next) : next.Fits := by
  fun_cases finish? limit around token with
  | case1 items outer =>
      rcases List.forall_mem_cons.mp frames with ⟨inside, ofOuter⟩
      have fits : (Json.arr items.reverse).numbersFit = true := by
        simpa [numbersFit, itemsFit_iff] using itemsFit_iff.mp inside
      exact Option.some.inj finished ▸ fits_close limit fits ofOuter
  | case2 fields readable key outer =>
      rcases List.forall_mem_cons.mp frames with ⟨inside, ofOuter⟩
      have fits :
          (if readable then Json.obj fields.reverse else .unreadable).numbersFit = true := by
        split
        · simpa [numbersFit, fieldsFit_iff] using fieldsFit_iff.mp inside
        · rfl
      exact Option.some.inj finished ▸ fits_close limit fits ofOuter
  | case3 => simp_all [finish?]

theorem fits_of_name? (frames : ∀ frame ∈ around, frame.Fits)
    (named : name? around token = some next) : next.Fits := by
  fun_cases name? around token with
  | case1 => 
      obtain rfl := Option.some.inj named
      constructor <;> simp_all [Frame.Fits]
  | case2 => simp_all [name?]

/-- A step passes the numbers of its token on, and those of the containers around it. -/
theorem fits_of_step? {state : Assembly} (inside : state.Fits) (fits : token.Fits)
    (step : state.step? limit token = some next) : next.Fits := by
  have waiting (expected : Expected) (unfinished : ∀ value, expected ≠ .nothing value) :
      (Assembly.mk state.around expected).Fits :=
    ⟨inside.around, fun value same => absurd same (unfinished value)⟩
  unfold step? at step
  split at step
  · exact fits_of_start? inside.around fits step
  · exact fits_of_finish? inside.around step
  · exact fits_of_start? inside.around fits step
  · exact fits_of_finish? inside.around step
  · exact fits_of_name? inside.around step
  · exact fits_of_name? inside.around step
  · exact Option.some.inj step ▸ waiting .value (by simp)
  · split at step
    · exact Option.some.inj step ▸ waiting .value (by simp)
    · exact Option.some.inj step ▸ waiting .key (by simp)
    · cases step
  · exact fits_of_finish? inside.around step
  · cases step

theorem fits_of_run? {state : Assembly} (inside : state.Fits) {tokens : List Token}
    (fits : ∀ token ∈ tokens, token.Fits) {json : Json}
    (read : run? limit state tokens = some json) : json.numbersFit = true := by
  induction tokens generalizing state with
  | nil =>
      unfold run? at read
      split at read
      · next result expected => exact Option.some.inj read ▸ inside.result result expected
      · cases read
  | cons token rest ih =>
      rcases List.forall_mem_cons.mp fits with ⟨ofToken, ofRest⟩
      rcases Option.bind_eq_some_iff.mp read with ⟨next, step, later⟩
      exact ih (fits_of_step? inside ofToken step) ofRest later

end Assembly

/-- The numbers of a value that is read from a text fit. -/
theorem numbersFit_of_ofText? {text : String} {json : Json} (read : ofText? text = some json) :
    json.numbersFit = true := by
  rcases Option.bind_eq_some_iff.mp read with ⟨tokens, ofTokens, assembled⟩
  have start : (Assembly.mk [] .value).Fits := ⟨by simp, by simp⟩
  exact Assembly.fits_of_run? start (fits_of_tokensFrom ofTokens) assembled

end Whittle.Json

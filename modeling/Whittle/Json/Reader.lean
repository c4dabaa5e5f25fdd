import Whittle.Decimal.Scaled
import Whittle.Json.Value

/-!
# Reading JSON text

The text is cut into tokens by a machine that looks at one character at a time,
and the tokens are put together by a machine that holds the containers not yet
closed.  Both are recursive on their input alone.
-/

namespace Whittle.Json

/-! ## Numbers -/

/-- The greatest significand that is kept exactly while digits are read. -/
def greatestSignificand : Nat := UInt64.size - 1

/--
Append digits to a significand while it stays within bounds; also the digits
from the first one on that does not fit.
-/
def appendDigits (significand : Nat) : List Char → Nat × List Char
  | [] => (significand, [])
  | digit :: rest =>
      let next := significand * 10 + (digit.toNat - 48)
      if next ≤ greatestSignificand then appendDigits next rest
      else (significand, digit :: rest)

/-- The value of a run of digits. -/
def digitsValue (digits : List Char) : Nat :=
  digits.foldl (fun value digit => value * 10 + (digit.toNat - 48)) 0

/-- The parts of a number: its sign, digits before and after the point, and exponent. -/
structure Numeral where
  negative : Bool
  whole : List Char
  fraction : Option (List Char)
  exponent : Option Int
deriving Repr, DecidableEq

/-- Split digits off the front. -/
def spanDigits (text : List Char) : List Char × List Char :=
  (text.takeWhile Char.isDigit, text.dropWhile Char.isDigit)

/-- Read the exponent that ends a number. -/
def exponent? : List Char → Option (Option Int)
  | [] => some none
  | mark :: rest =>
      if mark == 'e' || mark == 'E' then
        let (negative, digits) :=
          match rest with
          | '-' :: digits => (true, digits)
          | '+' :: digits => (false, digits)
          | digits => (false, digits)
        if digits.isEmpty || !digits.all Char.isDigit then none
        else
          let size : Int := digitsValue digits
          some (some (if negative then -size else size))
      else none

/-- Read a number by the grammar: no leading zero, digits on both sides of a point. -/
def numeral? (text : List Char) : Option Numeral := do
  let (negative, unsigned) :=
    match text with
    | '-' :: rest => (true, rest)
    | rest => (false, rest)
  let (whole, afterWhole) := spanDigits unsigned
  if whole.isEmpty || (whole.head? == some '0' && 1 < whole.length) then none
  else
    match afterWhole with
    | '.' :: rest =>
        let (fraction, afterFraction) := spanDigits rest
        if fraction.isEmpty then none
        else return ⟨negative, whole, some fraction, ← exponent? afterFraction⟩
    | rest => return ⟨negative, whole, none, ← exponent? rest⟩

/-- The floating-point number of the digits that fit, scaled by their place. -/
def Numeral.toFloat (numeral : Numeral) : Json :=
  let fraction := numeral.fraction.getD []
  let (wholeValue, unreadWhole) := appendDigits 0 numeral.whole
  let (significand, unread) := appendDigits wholeValue fraction
  let place : Int := unreadWhole.length - (fraction.length - unread.length : Nat)
  match Decimal.scaled? numeral.negative significand (place + numeral.exponent.getD 0) with
  | some value => .float value
  | none => .unreadable

/--
The value of a number.  Without point and exponent it is an integer as long as
it fits 64 bits, with or without sign; a negative zero is a floating-point number.
-/
def Numeral.value (numeral : Numeral) : Json :=
  match numeral.fraction, numeral.exponent with
  | none, none =>
      let size := digitsValue numeral.whole
      if numeral.negative then
        if 0 < size ∧ size ≤ UInt64.size / 2 then .int (-size) else numeral.toFloat
      else if size ≤ greatestSignificand then .int size
      else numeral.toFloat
  | _, _ => numeral.toFloat

/-! ## Tokens -/

/-- A token of JSON text.  A string that contains half a surrogate pair has no text. -/
inductive Token where
  | beginArray
  | endArray
  | beginObject
  | endObject
  | colon
  | comma
  | text (value : Option String)
  | scalar (value : Json)
deriving Repr

/-- One unit of a string: a character, or half of a surrogate pair. -/
inductive Unit16 where
  | char (c : Char)
  | half (value : Nat)
deriving Repr, DecidableEq

/-- The character at a place above the first sixteen bits, from its two halves. -/
def joinHalves (high low : Nat) : Char :=
  Char.ofNat (0x10000 + (high - 0xD800) * 0x400 + (low - 0xDC00))

/-- Join the surrogate pairs; a half that has no partner spoils the text. -/
def joinUnits : List Unit16 → Option (List Char)
  | [] => some []
  | .char c :: rest => (joinUnits rest).map (c :: ·)
  | .half high :: .half low :: rest =>
      if high < 0xDC00 ∧ 0xDC00 ≤ low then (joinUnits rest).map (joinHalves high low :: ·)
      else none
  | .half _ :: _ => none

/-- Where the token machine stands. -/
inductive Lexing where
  /-- Between tokens. -/
  | between
  /-- Inside a number or a word; the characters so far, latest first. -/
  | bare (read : List Char)
  /-- Inside a string; the units so far, latest first. -/
  | quoted (read : List Unit16)
  /-- After a backslash. -/
  | escaped (read : List Unit16)
  /-- Inside a four-digit code. -/
  | coded (read : List Unit16) (value : Nat) (missing : Nat)
deriving Repr

def isSpace (c : Char) : Bool :=
  c == ' ' || c == '\t' || c == '\n' || c == '\r'

/-- Whether a character continues a number or a word. -/
def isBare (c : Char) : Bool :=
  c.isAlphanum || c == '-' || c == '+' || c == '.'

/-- The token of a number or a word. -/
def bareToken? (text : List Char) : Option Token :=
  if text = ['n', 'u', 'l', 'l'] then some (.scalar .null)
  else if text = ['t', 'r', 'u', 'e'] then some (.scalar (.bool true))
  else if text = ['f', 'a', 'l', 's', 'e'] then some (.scalar (.bool false))
  else (numeral? text).map (.scalar ·.value)

/-- The character that a one-letter escape stands for. -/
def shortEscape? (c : Char) : Option Char :=
  if c = Char.ofNat 34 ∨ c = '\\' ∨ c = '/' then some c
  else if c = 'b' then some '\x08'
  else if c = 'f' then some '\x0c'
  else if c = 'n' then some '\n'
  else if c = 'r' then some '\r'
  else if c = 't' then some '\t'
  else none

def hexValue? (c : Char) : Option Nat :=
  if '0' ≤ c ∧ c ≤ '9' then some (c.toNat - 48)
  else if 'a' ≤ c ∧ c ≤ 'f' then some (c.toNat - 87)
  else if 'A' ≤ c ∧ c ≤ 'F' then some (c.toNat - 55)
  else none

/-- A sixteen-bit code as a unit of a string. -/
def unitOfCode (code : Nat) : Unit16 :=
  if 0xD800 ≤ code ∧ code < 0xE000 then .half code else .char (Char.ofNat code)

/-- The token that a character is by itself. -/
def punctuation? (c : Char) : Option Token :=
  if c = '[' then some .beginArray
  else if c = ']' then some .endArray
  else if c = '\x7b' then some .beginObject
  else if c = '\x7d' then some .endObject
  else if c = ':' then some .colon
  else if c = ',' then some .comma
  else none

/-- One character between tokens: the tokens it completes, and where the machine stands then. -/
def lexBetween (c : Char) : Option (List Token × Lexing) :=
  if isSpace c then some ([], .between)
  else if c = Char.ofNat 34 then some ([], .quoted [])
  else if isBare c then some ([], .bare [c])
  else (punctuation? c).map fun token => ([token], .between)

/-- One character, wherever the machine stands. -/
def lexStep (c : Char) : Lexing → Option (List Token × Lexing)
  | .between => lexBetween c
  | .bare read =>
      if isBare c then some ([], .bare (c :: read))
      else do
        let token ← bareToken? read.reverse
        let (tokens, next) ← lexBetween c
        return (token :: tokens, next)
  | .quoted read =>
      if c = Char.ofNat 34 then
        some ([.text ((joinUnits read.reverse).map String.ofList)], .between)
      else if c = '\\' then some ([], .escaped read)
      else if c.toNat < 0x20 then none
      else some ([], .quoted (.char c :: read))
  | .escaped read =>
      if c = 'u' then some ([], .coded read 0 4)
      else (shortEscape? c).map fun char => ([], .quoted (.char char :: read))
  | .coded read value missing => do
      let value := value * 16 + (← hexValue? c)
      if missing ≤ 1 then return ([], .quoted (unitOfCode value :: read))
      else return ([], .coded read value (missing - 1))

/-- The tokens that follow, from where the machine stands. -/
def tokensFrom : Lexing → List Char → Option (List Token)
  | .between, [] => some []
  | .bare read, [] => (bareToken? read.reverse).map ([·])
  | _, [] => none
  | state, c :: rest => do
      let (tokens, next) ← lexStep c state
      let later ← tokensFrom next rest
      return tokens ++ later

/-! ## Values -/

/-- A container that is not closed yet, with what it holds so far, latest first. -/
inductive Frame where
  | array (items : List Json)
  /-- An object whose member `key` is being read; an unreadable name spoils the whole. -/
  | object (fields : List (String × Json)) (readable : Bool) (key : Option String)
deriving Repr

/-- What may come next. -/
inductive Expected where
  | value
  | firstItem
  | firstKey
  | key
  | colon
  | more
  | nothing (result : Json)
deriving Repr

/-- The containers around the next token, innermost first, and what it may be. -/
structure Assembly where
  around : List Frame
  expected : Expected
deriving Repr

namespace Assembly

/-- A value is complete: hand it to the container around it. -/
def deliver (value : Json) : List Frame → Assembly
  | [] => ⟨[], .nothing value⟩
  | .array items :: outer => ⟨.array (value :: items) :: outer, .more⟩
  | .object fields readable (some key) :: outer =>
      ⟨.object ((key, value) :: fields) readable none :: outer, .more⟩
  | .object fields _ none :: outer => ⟨.object fields false none :: outer, .more⟩

/-- A container is complete; it cannot be read if it lies deeper than the limit. -/
def close (limit : Nat) (value : Json) (outer : List Frame) : Assembly :=
  deliver (if outer.length < limit then value else .unreadable) outer

def start? (around : List Frame) : Token → Option Assembly
  | .scalar value => some (deliver value around)
  | .text (some value) => some (deliver (.str value) around)
  | .text none => some (deliver .unreadable around)
  | .beginArray => some ⟨.array [] :: around, .firstItem⟩
  | .beginObject => some ⟨.object [] true none :: around, .firstKey⟩
  | _ => none

/-- Close the innermost container with the token that ends it. -/
def finish? (limit : Nat) : List Frame → Token → Option Assembly
  | .array items :: outer, .endArray => some (close limit (.arr items.reverse) outer)
  | .object fields readable _ :: outer, .endObject =>
      some (close limit (if readable then .obj fields.reverse else .unreadable) outer)
  | _, _ => none

def name? : List Frame → Token → Option Assembly
  | .object fields readable _ :: outer, .text key =>
      some ⟨.object fields readable key :: outer, .colon⟩
  | _, _ => none

def step? (limit : Nat) (state : Assembly) (token : Token) : Option Assembly :=
  match state.expected, token with
  | .value, token => start? state.around token
  | .firstItem, .endArray => finish? limit state.around .endArray
  | .firstItem, token => start? state.around token
  | .firstKey, .endObject => finish? limit state.around .endObject
  | .firstKey, token => name? state.around token
  | .key, token => name? state.around token
  | .colon, .colon => some ⟨state.around, .value⟩
  | .more, .comma =>
      match state.around with
      | .array _ :: _ => some ⟨state.around, .value⟩
      | .object _ _ _ :: _ => some ⟨state.around, .key⟩
      | [] => none
  | .more, token => finish? limit state.around token
  | _, _ => none

/-- All tokens to the end, which must complete exactly one value. -/
def run? (limit : Nat) (state : Assembly) : List Token → Option Json
  | [] =>
      match state.expected with
      | .nothing result => some result
      | _ => none
  | token :: rest => do
      let next ← state.step? limit token
      run? limit next rest

end Assembly

/-- Read a text that nests containers at most `limit` deep. -/
def read? (limit : Nat) (text : List Char) : Option Json := do
  let tokens ← tokensFrom .between text
  Assembly.run? limit ⟨[], .value⟩ tokens

/-- How deep the containers of a text may nest. -/
def depthLimit : Nat := 127

/-- Read a text as it stands, with all repeated members. -/
def ofText? (text : String) : Option Json :=
  read? depthLimit text.toList

end Whittle.Json

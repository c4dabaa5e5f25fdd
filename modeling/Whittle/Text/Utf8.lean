/-!
# UTF-8

Writing is the standard encoding.  Reading never fails: each maximal piece of
the input that begins a character but does not complete it, and each byte that
begins none, is read as one replacement character.
-/

namespace Whittle.Text.Utf8

def encode (text : List Char) : List UInt8 :=
  text.flatMap String.utf8EncodeChar

/-- The character that stands for a piece that is not UTF-8. -/
def replacement : Char := '\uFFFD'

/--
A character whose first bytes have been read: the value so far, how many bytes
are missing, and the interval in which the next one must lie.
-/
structure Pending where
  value : Nat
  missing : Nat
  least : Nat
  greatest : Nat
deriving Repr, DecidableEq

/-- What the first byte of a character, not ASCII, announces. -/
def Pending.ofLead (byte : Nat) : Option Pending :=
  if 0xC2 ≤ byte && byte ≤ 0xDF then some ⟨byte - 0xC0, 1, 0x80, 0xBF⟩
  else if byte == 0xE0 then some ⟨0, 2, 0xA0, 0xBF⟩
  else if byte == 0xED then some ⟨0xD, 2, 0x80, 0x9F⟩
  else if 0xE1 ≤ byte && byte ≤ 0xEF then some ⟨byte - 0xE0, 2, 0x80, 0xBF⟩
  else if byte == 0xF0 then some ⟨0, 3, 0x90, 0xBF⟩
  else if byte == 0xF4 then some ⟨4, 3, 0x80, 0x8F⟩
  else if 0xF1 ≤ byte && byte ≤ 0xF3 then some ⟨byte - 0xF0, 3, 0x80, 0xBF⟩
  else none

/-- One byte between characters: a finished text, and what it leaves pending. -/
def start (byte : Nat) : List Char × Option Pending :=
  if byte < 0x80 then ([Char.ofNat byte], none)
  else
    match Pending.ofLead byte with
    | some pending => ([], some pending)
    | none => ([replacement], none)

/-- One byte inside a character.  A byte that does not fit closes the piece and starts anew. -/
def resume (pending : Pending) (byte : Nat) : List Char × Option Pending :=
  if pending.least ≤ byte && byte ≤ pending.greatest then
    let value := pending.value * 64 + (byte - 0x80)
    if pending.missing ≤ 1 then ([Char.ofNat value], none)
    else ([], some ⟨value, pending.missing - 1, 0x80, 0xBF⟩)
  else
    let (text, next) := start byte
    (replacement :: text, next)

/-- Read the bytes that follow those pending. -/
def decodeFrom : Option Pending → List UInt8 → List Char
  | none, [] => []
  | some _, [] => [replacement]
  | none, byte :: rest =>
      let (text, next) := start byte.toNat
      text ++ decodeFrom next rest
  | some pending, byte :: rest =>
      let (text, next) := resume pending byte.toNat
      text ++ decodeFrom next rest

/-- Read bytes as text, with replacement characters for what is not UTF-8. -/
def decodeLossy (bytes : List UInt8) : List Char :=
  decodeFrom none bytes

end Whittle.Text.Utf8

import Whittle.Decimal.Notation
import Whittle.Json.Value
import Whittle.Text.Search

/-!
# Writing JSON text

The text has no spaces.  Quotes, backslashes and control characters are escaped
and everything else stands as it is.
-/

namespace Whittle.Json

/-- A control character by its code. -/
def controlCode (c : Char) : List Char :=
  let digits := Nat.toDigits 16 c.toNat
  ['\\', 'u'] ++ List.replicate (4 - digits.length) '0' ++ digits

def escapeChar (c : Char) : List Char :=
  if c = Char.ofNat 34 ∨ c = '\\' then ['\\', c]
  else if c = '\x08' then ['\\', 'b']
  else if c = '\x0c' then ['\\', 'f']
  else if c = '\n' then ['\\', 'n']
  else if c = '\r' then ['\\', 'r']
  else if c = '\t' then ['\\', 't']
  else if c.toNat < 0x20 then controlCode c
  else [c]

def writeString (text : String) : List Char :=
  Char.ofNat 34 :: text.toList.flatMap escapeChar ++ [Char.ofNat 34]

mutual

def write : Json → List Char
  | .null | .unreadable => "null".toList
  | .bool true => "true".toList
  | .bool false => "false".toList
  | .int value => Decimal.ofInt value
  | .float value => Decimal.literalFormat.write value
  | .str value => writeString value
  | .arr items => '[' :: Text.joinWith [','] (writeItems items) ++ [']']
  | .obj fields => '\x7b' :: Text.joinWith [','] (writeFields fields) ++ ['\x7d']

def writeItems : List Json → List (List Char)
  | [] => []
  | item :: rest => write item :: writeItems rest

def writeFields : List (String × Json) → List (List Char)
  | [] => []
  | (name, value) :: rest => (writeString name ++ ':' :: write value) :: writeFields rest

end

/-- The text of a value as a string. -/
def toText (value : Json) : String :=
  String.ofList value.write

end Whittle.Json

/-!
# Base64

The standard alphabet with padding.  Reading is strict: the last group is
padded, no other character is skipped, and the bits that padding leaves over
are zero.  So every byte sequence has one spelling.
-/

namespace Whittle.Text.Base64

/-- The character for a value below 64. -/
def digitChar (value : Nat) : Char :=
  if value < 26 then Char.ofNat (65 + value)
  else if value < 52 then Char.ofNat (97 + (value - 26))
  else if value < 62 then Char.ofNat (48 + (value - 52))
  else if value = 62 then '+'
  else '/'

/-- The value of a character of the alphabet. -/
def digitValue? (c : Char) : Option Nat :=
  let point := c.toNat
  if 65 ≤ point ∧ point ≤ 90 then some (point - 65)
  else if 97 ≤ point ∧ point ≤ 122 then some (point - 97 + 26)
  else if 48 ≤ point ∧ point ≤ 57 then some (point - 48 + 52)
  else if c = '+' then some 62
  else if c = '/' then some 63
  else none

/-- Three bytes at a time as four characters; the last group is padded. -/
def encode : List UInt8 → List Char
  | [] => []
  | [a] =>
      let group := a.toNat * 16
      [digitChar (group / 64), digitChar (group % 64), '=', '=']
  | [a, b] =>
      let group := (a.toNat * 256 + b.toNat) * 4
      [digitChar (group / 4096), digitChar (group / 64 % 64), digitChar (group % 64), '=']
  | a :: b :: c :: rest =>
      let group := (a.toNat * 256 + b.toNat) * 256 + c.toNat
      digitChar (group / 262144) :: digitChar (group / 4096 % 64) ::
        digitChar (group / 64 % 64) :: digitChar (group % 64) :: encode rest

/-- Four characters at a time as three bytes; only the last group may be padded. -/
def decode? : List Char → Option (List UInt8)
  | [] => some []
  | [a, b, '=', '='] => do
      let group := (← digitValue? a) * 64 + (← digitValue? b)
      if group % 16 = 0 then some [UInt8.ofNat (group / 16)] else none
  | [a, b, c, '='] => do
      let group := ((← digitValue? a) * 64 + (← digitValue? b)) * 64 + (← digitValue? c)
      if group % 4 = 0 then
        some [UInt8.ofNat (group / 1024), UInt8.ofNat (group / 4)]
      else none
  | a :: b :: c :: d :: rest => do
      let group :=
        (((← digitValue? a) * 64 + (← digitValue? b)) * 64 + (← digitValue? c)) * 64 +
          (← digitValue? d)
      let bytes ← decode? rest
      some (UInt8.ofNat (group / 65536) :: UInt8.ofNat (group / 256) ::
        UInt8.ofNat group :: bytes)
  | _ => none

end Whittle.Text.Base64

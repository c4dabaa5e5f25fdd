import Whittle.Unicode.GraphemeExtend
import Whittle.Unicode.Printable

/-!
# Quoted text

Strings and characters as the printed program spells them.  The usual short
escapes stand for the control characters that have one, the quote that closes
the literal and the backslash are escaped, and every other character that
cannot be seen by itself is written by its code point.
-/

namespace Whittle.Text.Quoted

/-- The code point of a character in lower-case hexadecimal, without padding. -/
def codePoint (c : Char) : List Char :=
  ['\\', 'u', '\x7b'] ++ Nat.toDigits 16 c.toNat ++ ['\x7d']

/-- A character inside a literal that `quote` closes. -/
def escape (quote c : Char) : List Char :=
  if c = '\x00' then ['\\', '0']
  else if c = '\t' then ['\\', 't']
  else if c = '\r' then ['\\', 'r']
  else if c = '\n' then ['\\', 'n']
  else if c = '\\' ∨ c = quote then ['\\', c]
  else if Unicode.isGraphemeExtend c || !Unicode.isPrintable c then codePoint c
  else [c]

def doubleQuote : Char := Char.ofNat 34

def singleQuote : Char := Char.ofNat 39

/-- A string literal. -/
def string (text : List Char) : List Char :=
  doubleQuote :: text.flatMap (escape doubleQuote) ++ [doubleQuote]

/-- A character literal. -/
def char (c : Char) : List Char :=
  singleQuote :: escape singleQuote c ++ [singleQuote]

end Whittle.Text.Quoted

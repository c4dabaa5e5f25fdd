import Whittle.Pattern.Basic

/-!
# Flags and named classes

The flags that change how the rest of a pattern is read, and the classes of
characters that have a name.
-/

namespace Whittle.Pattern

/-- What the flags are set to at one place of a pattern. -/
structure Flags where
  /-- Letters stand for both cases. -/
  caseless : Bool
  /-- The ends of lines count as ends. -/
  multiLine : Bool
  /-- A dot stands for a newline too. -/
  dotAll : Bool
  /-- Carriage returns end lines too. -/
  crlf : Bool
  /-- Repetitions prefer fewer copies; this does not change what is found. -/
  swapGreed : Bool
  /-- Classes go beyond ASCII. -/
  wide : Bool
  /-- Spaces and comments in the pattern are passed over. -/
  spaced : Bool
deriving Repr, DecidableEq

namespace Flags

/-- The flags at the start of a pattern. -/
def standard : Flags := ⟨false, false, false, false, false, true, false⟩

def set? (flags : Flags) (letter : Char) (value : Bool) : Option Flags :=
  match letter with
  | 'i' => some { flags with caseless := value }
  | 'm' => some { flags with multiLine := value }
  | 's' => some { flags with dotAll := value }
  | 'R' => some { flags with crlf := value }
  | 'U' => some { flags with swapGreed := value }
  | 'u' => some { flags with wide := value }
  | 'x' => some { flags with spaced := value }
  | _ => none

/-- A set as the flags have it: closed under case, if letters stand for both. -/
def close (flags : Flags) (set : CharSet) : CharSet :=
  if flags.caseless then (if flags.wide then .folded set else .asciiFolded set) else set

def literal (flags : Flags) (c : Char) : Pattern :=
  .set (flags.close (.single c))

/-- What a dot stands for; without wide classes it could stand for half a character. -/
def dot? (flags : Flags) : Option Pattern :=
  let excluded : CharSet :=
    if flags.dotAll then .empty
    else if flags.crlf then .union (.single '\n') (.single '\r')
    else .single '\n'
  if flags.wide then some (.set (.compl excluded)) else none

/-- The condition for the start of the text or of a line. -/
def start (flags : Flags) : Condition :=
  if flags.multiLine then (if flags.crlf then .lineStartCrlf else .lineStart) else .textStart

/-- The condition for the end of the text or of a line. -/
def finish (flags : Flags) : Condition :=
  if flags.multiLine then (if flags.crlf then .lineEndCrlf else .lineEnd) else .textEnd

end Flags

namespace CharSet

/-- Letters, digits and the low line of ASCII. -/
def asciiWord : CharSet :=
  unionOf [.range 48 57, .range 65 90, .single '_', .range 97 122]

def asciiDigit : CharSet := .range 48 57

def asciiBlank : CharSet := .union (.range 9 13) (.single ' ')

/-- The class that a letter after a backslash names; capitals name the complement. -/
def ofLetter? (flags : Flags) (letter : Char) : Option CharSet :=
  let choose := fun (wide ascii : CharSet) => if flags.wide then wide else ascii
  let complement := fun (set : CharSet) => if flags.wide then some (.compl set) else none
  match letter with
  | 'w' => some (choose .word asciiWord)
  | 'd' => some (choose .digit asciiDigit)
  | 's' => some (choose .blank asciiBlank)
  | 'W' => complement .word
  | 'D' => complement .digit
  | 'S' => complement .blank
  | _ => none

/-- The class with a name in brackets and colons. -/
def ofBracketName? : String → Option CharSet
  | "alnum" => some (unionOf [.range 48 57, .range 65 90, .range 97 122])
  | "alpha" => some (.union (.range 65 90) (.range 97 122))
  | "ascii" => some (.range 0 127)
  | "blank" => some (.union (.single '\t') (.single ' '))
  | "cntrl" => some (.union (.range 0 31) (.range 127 127))
  | "digit" => some asciiDigit
  | "graph" => some (.range 33 126)
  | "lower" => some (.range 97 122)
  | "print" => some (.range 32 126)
  | "punct" => some (unionOf [.range 33 47, .range 58 64, .range 91 96, .range 123 126])
  | "space" => some asciiBlank
  | "upper" => some (.range 65 90)
  | "word" => some asciiWord
  | "xdigit" => some (unionOf [.range 48 57, .range 65 70, .range 97 102])
  | _ => none

/-- The class with the name of a property of characters. -/
def ofProperty? (name : String) : Option CharSet :=
  let letters := name.toList.filter fun c => c != '_' && c != ' ' && c != '-'
  match String.ofList (letters.map Char.toLower) with
  | "nd" | "decimalnumber" | "digit" | "gc=nd" | "generalcategory=nd" => some .digit
  | "whitespace" | "space" | "wspace" => some .blank
  | "any" => some (.range 0 0x10FFFF)
  | "ascii" => some (.range 0 127)
  | _ => none

end CharSet

end Whittle.Pattern

import Whittle.Program.Outline
import Whittle.Reduction.Pass

/-!
# Greedy reduction

The kinds are tried in order.  For each, the removal of all candidates at once
is tried first; if the result is not wanted, the candidates are tried one by
one.  An accepted result is where the search goes on, at the same index, since
the candidates behind the removed one have moved up.
-/

namespace Whittle.Greedy

/-- One accepted removal. -/
structure Step where
  kind : RemovalKind
  /-- The index of the removed candidate, or nothing if all were removed. -/
  index : Option Nat
  candidates : Nat
deriving Repr, DecidableEq

/-- The program so far and the accepted removals, latest first. -/
structure State where
  program : Program
  text : List Char
  accepted : List Step

/-- The characters of a program with its comments. -/
def charsOf (program : Program) : List Char :=
  Member.linesChars (.outermost true) program.members

/-- Before the first removal. -/
def State.begin (program : Program) : State :=
  ⟨program, charsOf program, []⟩

/-- Accept a result if its text is another one and is wanted. -/
def State.offer? (wanted : List Char → Bool) (state : State) (kind : RemovalKind)
    (index : Option Nat) (outcome : Counted Program) : Option State :=
  let text := charsOf outcome.value
  if text != state.text && wanted text then
    some ⟨outcome.value, text, ⟨kind, index, outcome.candidates⟩ :: state.accepted⟩
  else none

/--
Try the candidates of one kind from an index on.  Each attempt either accepts
a smaller program or moves the index on, so the fuel only has to cover both.
-/
def oneByOne (wanted : List Char → Bool) (pass : Pass) : Nat → Nat → State → State
  | 0, _, state => state
  | fuel + 1, index, state =>
      let outcome := pass.apply state.program (.nth index)
      if outcome.candidates ≤ index then state
      else
        match state.offer? wanted pass.kind (some index) outcome with
        | some next => oneByOne wanted pass fuel index next
        | none => oneByOne wanted pass fuel (index + 1) state

/-- More attempts than one kind can use up on a program. -/
def attempts (program : Program) : Nat :=
  4 * program.nodes.length + 4

/-- Try all candidates of one kind at once, or else one by one. -/
def tryKind (options : ReduceOptions) (wanted : List Char → Bool) (state : State)
    (kind : RemovalKind) : State :=
  let pass : Pass := ⟨kind, options⟩
  match state.offer? wanted kind none (pass.apply state.program .all) with
  | some next => next
  | none => oneByOne wanted pass (attempts state.program) 0 state

/-- Reduce a program as long as its text stays wanted. -/
def run (options : ReduceOptions) (wanted : List Char → Bool) (program : Program) : State :=
  RemovalKind.all.foldl (tryKind options wanted) (.begin program)

end Whittle.Greedy

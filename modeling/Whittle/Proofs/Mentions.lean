import Whittle.Proofs.Addresses
import Whittle.Proofs.NestedText
import Whittle.Proofs.SkeletonReading

/-!
# Mentions

The text of a node is not a part of the texts above it, for a node that stands
alone is not indented.  Still a text without a newline that is in the one is in
all the others (`includes_of_nodeAt?`), since lines keep what is in them.  So
what mentions a marker is only ever in nodes that mention it, and a node that
mentions none can be removed with all that is in it.
-/

namespace Whittle

namespace Outline

theorem MirrorParts.map_skeleton {nodes : List Node} {parts : List (Slot × Skeleton)}
    (mirror : MirrorParts (nodes.map Node.outline) parts) :
    nodes.map Node.skeleton = parts.map Prod.snd := by
  induction nodes generalizing parts with
  | nil =>
      cases parts with
      | nil => rfl
      | cons part rest => exact mirror.elim
  | cons node rest ih =>
      cases parts with
      | nil => exact mirror.elim
      | cons part others =>
          rcases part with ⟨slot, tree⟩
          rw [List.map_cons, node.outline_eq] at mirror
          rw [List.map_cons, List.map_cons, mirror.1.1, ih mirror.2]

end Outline

namespace Node

/-- What is directly below a node are the parts of its skeleton. -/
theorem map_skeleton_nodesBelow (node : Node) :
    node.nodesBelow.map Node.skeleton = node.skeleton.parts.map Prod.snd := by
  have mirrors := node.outline_mirrors
  rw [node.outline_eq] at mirrors
  exact mirrors.2.map_skeleton

/-- Nodes with the same skeleton have the same text, since neither shows comments. -/
theorem chars_eq_of_skeleton_eq {first second : Node} (alike : first.skeleton = second.skeleton) :
    first.chars = second.chars := by
  have read : some first.normal = some second.normal := by
    rw [← first.read?_skeleton, alike, second.read?_skeleton]
  rw [← first.chars_normal, Option.some.inj read, second.chars_normal]

/-! ## From below -/

theorem Includes.refl (node : Node) : node.Includes node :=
  includes_of_isInfix List.infix_rfl

theorem Includes.trans {node middle inner : Node} (upper : node.Includes middle)
    (lower : middle.Includes inner) : node.Includes inner :=
  fun needle noNewline found => upper needle noNewline (lower needle noNewline found)

/-- What is directly below a node is mentioned in its text. -/
theorem includes_of_mem_nodesBelow {node inner : Node} (below : inner ∈ node.nodesBelow) :
    node.Includes inner := by
  have isPart : inner.skeleton ∈ node.skeleton.parts.map Prod.snd := by
    rw [← node.map_skeleton_nodesBelow]
    exact List.mem_map_of_mem below
  rcases List.mem_map.mp isPart with ⟨part, member, alike⟩
  rcases node.includes_of_mem_parts member with ⟨other, isOther, includes⟩
  intro needle noNewline found
  rw [chars_eq_of_skeleton_eq (alike.symm.trans isOther)] at found
  exact includes needle noNewline found

/-- Whatever is below a node, however far, is mentioned in its text. -/
theorem includes_of_nodeAt? {node inner : Node} {path : List Nat}
    (reached : node.nodeAt? path = some inner) : node.Includes inner := by
  induction path generalizing node with
  | nil =>
      obtain rfl : node = inner := Option.some.inj reached
      exact .refl node
  | cons index path ih =>
      rcases Option.bind_eq_some_iff.mp reached with ⟨middle, isBelow, reached⟩
      exact (includes_of_mem_nodesBelow (List.mem_of_getElem? isBelow)).trans (ih reached)

theorem nodeAt?_append (node : Node) (first second : List Nat) :
    node.nodeAt? (first ++ second) = (node.nodeAt? first).bind fun inner =>
      inner.nodeAt? second := by
  induction first generalizing node with
  | nil => rfl
  | cons index path ih =>
      rw [List.cons_append, nodeAt?, nodeAt?, Option.bind_assoc]
      exact Option.bind_congr fun inner _ => ih inner

end Node

/-! ## In a program -/

namespace Program

/-- The end of an address leads on from the node that its beginning leads to. -/
theorem nodeAt?_append (program : Program) {address : List Nat} {node : Node}
    (found : program.nodeAt? address = some node) (path : List Nat) :
    program.nodeAt? (address ++ path) = node.nodeAt? path := by
  cases address with
  | nil => cases found
  | cons index start =>
      rcases Option.bind_eq_some_iff.mp found with ⟨member, isMember, found⟩
      rw [List.cons_append, nodeAt?, isMember, Option.bind_some, Node.nodeAt?_append, found,
        Option.bind_some]

end Program

namespace ReduceOptions

variable {options : ReduceOptions} (oneLine : ∀ marker ∈ options.markers, '\n' ∉ marker.toList)
include oneLine

theorem mentionsMarker_of_includes {node inner : Node} (includes : node.Includes inner)
    (mentions : options.mentionsMarker inner = true) : options.mentionsMarker node = true := by
  simp only [mentionsMarker, List.any_eq_true, Text.occursIn_eq_true_iff] at mentions ⊢
  rcases mentions with ⟨marker, isMarker, found⟩
  exact ⟨marker, isMarker, includes marker.toList (oneLine marker isMarker) found⟩

/--
To mention a marker is inherited by all nodes above, at any depth and whatever
the names and constants are made of: a node that is further down along the
address of another one mentions no marker that this one does not.
-/
theorem mentionsMarker_inherited (program : Program) {address path : List Nat}
    {node inner : Node} (found : program.nodeAt? address = some node)
    (below : program.nodeAt? (address ++ path) = some inner)
    (mentions : options.mentionsMarker inner = true) : options.mentionsMarker node = true := by
  rw [program.nodeAt?_append found] at below
  exact mentionsMarker_of_includes oneLine (Node.includes_of_nodeAt? below) mentions

omit oneLine

/-- A call in a loop, with a marker after a newline in the text that it is called with. -/
def loggingLoop : Program :=
  ⟨[⟨[], .classDecl [] "C" [⟨[], .method ⟨[], "void", "f", [],
    [⟨[], .whileLoop (.ident "busy") ⟨[], .block [⟨[], .expr (.invoke (.ident "Log")
      [.literal (.string "\x7d\n    __loopvar")])⟩]⟩⟩]⟩⟩]⟩]⟩

/-- The class around the loop mentions what the text in the call does. -/
theorem mentionsMarker_inherited_logging :
    (∀ marker ∈ standard.markers, '\n' ∉ marker.toList) ∧
      ∃ node inner, loggingLoop.nodeAt? [0] = some node ∧
        loggingLoop.nodeAt? ([0] ++ [0, 0, 1, 0, 0, 1]) = some inner ∧
          standard.mentionsMarker inner = true ∧ standard.mentionsMarker node = true := by
  refine ⟨by decide, _, _, rfl, rfl, by decide, ?_⟩
  exact mentionsMarker_inherited (by decide) loggingLoop (rfl : loggingLoop.nodeAt? [0] = _)
    (rfl : loggingLoop.nodeAt? ([0] ++ [0, 0, 1, 0, 0, 1]) = _) (by decide)

/-- A marker over two lines is lost where these are indented. -/
example :
    let block : Stmt := ⟨[], .block [⟨[], .brk⟩]⟩
    let options : ReduceOptions := ⟨["\x7b\n    break"], ""⟩
    options.mentionsMarker (.stmt block) = true ∧
      options.mentionsMarker (.stmt ⟨[], .block [block]⟩) = false := by
  decide

end ReduceOptions

end Whittle

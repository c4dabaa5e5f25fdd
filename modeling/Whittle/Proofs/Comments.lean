import Whittle.Proofs.Changes

/-!
# Comments

Comments stand in the program while a pass looks at texts, and they are written
in two ways, on lines of their own and within a line.  They are seen by no pass:
all that a pass does to a program it does to the skeleton, and programs with the
same normal form have the same skeleton.

Two programs have the same normal form if they differ in comments, and in whether
a counting loop starts with an empty list of expressions or with none.
-/

namespace Whittle

namespace Program

variable {first second : Program}

theorem skeleton_eq_of_normal_eq (alike : first.normal = second.normal) :
    first.skeleton = second.skeleton := by
  rw [← first.skeleton_normal, alike, second.skeleton_normal]

/-- Programs with the same skeleton have the same nodes, up to what their normal forms forget. -/
theorem nodes_map_normal_eq (alike : first.skeleton = second.skeleton) :
    first.nodes.map Node.normal = second.nodes.map Node.normal := by
  have read (program : Program) :
      program.skeleton.descendants.map Skeleton.read? =
        (program.nodes.map Node.normal).map some := by
    rw [← program.nodes_map_skeleton]
    simp
  have same : (first.nodes.map Node.normal).map some = (second.nodes.map Node.normal).map some := by
    rw [← read, ← read, alike]
  exact (List.map_inj_right fun _ _ => Option.some.inj).mp same

/-- A question about a node that its normal form answers has the same answers all the way. -/
theorem nodes_map_eq_of_blind {α : Type} {ask : Node → α}
    (blind : ∀ node, ask node.normal = ask node) (alike : first.skeleton = second.skeleton) :
    first.nodes.map ask = second.nodes.map ask := by
  have through (program : Program) :
      (program.nodes.map Node.normal).map ask = program.nodes.map ask := by
    rw [List.map_map]
    exact List.map_congr_left fun node _ => blind node
  rw [← through, ← through, nodes_map_normal_eq alike]

end Program

namespace Pass

/--
Comments never influence a pass.  Programs with the same normal form have equal
outcomes in every mode, and node by node the same tests of the text succeed: what
stands in a comment neither protects a node nor makes it a diagnostic.
-/
theorem apply_eq_of_normal_eq (pass : Pass) {first second : Program}
    (alike : first.normal = second.normal) :
    (∀ mode, pass.apply first mode = pass.apply second mode) ∧
      first.nodes.map pass.options.mentionsMarker = second.nodes.map pass.options.mentionsMarker ∧
        first.nodes.map pass.options.beginsDiagnostic =
          second.nodes.map pass.options.beginsDiagnostic := by
  have skeleton := Program.skeleton_eq_of_normal_eq alike
  refine ⟨?_, ?_, ?_⟩
  · intro mode
    exact apply_eq_of_reduce (by rw [skeleton])
  · exact Program.nodes_map_eq_of_blind pass.options.mentionsMarker_normal skeleton
  · exact Program.nodes_map_eq_of_blind pass.options.beginsDiagnostic_normal skeleton

/-- An assignment in a loop, with the standard markers and the start of a diagnostic in comments. -/
def commentedLoop : Program :=
  ⟨[⟨[.line "__loopvar"], .method ⟨[], "void", "f", [],
    [⟨[.block "Log(", .line "__loopSecretVar"], .forLoop (some (.run [])) none []
      ⟨[.line "Log(__loopvar"],
        .expr (.assign .assign (.ident "x") (.literal (.int 1)))⟩⟩]⟩⟩]⟩

/-- The same loop without comments, and without the empty list that it starts with. -/
def bareLoop : Program :=
  ⟨[⟨[], .method ⟨[], "void", "f", [],
    [⟨[], .forLoop none none []
      ⟨[], .expr (.assign .assign (.ident "x") (.literal (.int 1)))⟩⟩]⟩⟩]⟩

/-- The assignment is not protected by what stands in the comments. -/
theorem apply_eq_of_normal_eq_loop :
    commentedLoop.normal = bareLoop.normal ∧
      (∀ mode, apply ⟨.assignment, .standard⟩ commentedLoop mode =
        apply ⟨.assignment, .standard⟩ bareLoop mode) ∧
        commentedLoop.nodes.map ReduceOptions.standard.mentionsMarker =
            bareLoop.nodes.map ReduceOptions.standard.mentionsMarker ∧
          commentedLoop.nodes.map ReduceOptions.standard.beginsDiagnostic =
            bareLoop.nodes.map ReduceOptions.standard.beginsDiagnostic :=
  ⟨rfl, apply_eq_of_normal_eq ⟨.assignment, .standard⟩ rfl⟩

end Pass

end Whittle

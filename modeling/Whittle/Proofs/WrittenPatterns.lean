import Whittle.Pattern.Reader
import Whittle.Proofs.Searching

/-!
# Patterns that can be written

A pattern is put together while its text is read, and every repetition in it was
written with bounds in order.  So no step of the reading leaves the ordered
patterns (`Reading.IsOrdered.step?`), and what can be written is searched for as
it is meant (`isMatch_of_ofText?`).
-/

namespace Whittle.Pattern

theorem isOrdered_sequence {patterns : List Pattern}
    (ordered : ∀ pattern ∈ patterns, pattern.IsOrdered = true) :
    (sequence patterns).IsOrdered = true := by
  induction patterns with
  | nil => rfl
  | cons first rest ih =>
      obtain ⟨ofFirst, ofRest⟩ := List.forall_mem_cons.mp ordered
      cases rest with
      | nil => exact ofFirst
      | cons second others =>
          rw [sequence, IsOrdered, ofFirst, ih ofRest, Bool.and_self]
          exact List.cons_ne_nil _ _

/-! ## Groups -/

/-- What was read of a group is ordered. -/
structure OpenGroup.IsOrdered (group : OpenGroup) : Prop where
  finished : ∀ earlier, group.finished = some earlier → earlier.IsOrdered = true
  items : ∀ item, some item ∈ group.items → item.IsOrdered = true

namespace OpenGroup

variable {group : OpenGroup}

theorem isOrdered_begin (flags : Flags) : (begin flags).IsOrdered where
  finished := by
    intro earlier isEarlier
    cases isEarlier
  items := by
    intro item isItem
    cases isItem

theorem IsOrdered.push (ordered : group.IsOrdered) {item : Pattern}
    (ofItem : item.IsOrdered = true) : (group.push item).IsOrdered where
  finished := ordered.finished
  items := by
    intro other isItem
    rcases List.mem_cons.mp isItem with same | isItem
    · exact Option.some.inj same ▸ ofItem
    · exact ordered.items other isItem

theorem IsOrdered.current (ordered : group.IsOrdered) : group.current.IsOrdered = true := by
  refine isOrdered_sequence fun pattern member => ordered.items pattern ?_
  simpa using member

theorem IsOrdered.whole (ordered : group.IsOrdered) : group.whole.IsOrdered = true := by
  rw [OpenGroup.whole]
  split
  · exact ordered.current
  · rename_i earlier isEarlier
    rw [Pattern.IsOrdered, ordered.finished earlier isEarlier, ordered.current, Bool.and_self]

theorem IsOrdered.alternate (ordered : group.IsOrdered) : group.alternate.IsOrdered where
  finished := by
    intro earlier isEarlier
    exact Option.some.inj isEarlier ▸ ordered.whole
  items := by
    intro item isItem
    cases isItem

theorem IsOrdered.repeat? (ordered : group.IsOrdered) {least : Nat} {most : Option Nat}
    (bounds : most.all (least ≤ ·) = true) {next : OpenGroup}
    (repeated : group.repeat? least most = some next) : next.IsOrdered := by
  rcases group with ⟨finished, items, flags⟩
  rw [OpenGroup.repeat?] at repeated
  split at repeated
  · rename_i copy others isItems
    obtain rfl : items = some copy :: others := isItems
    obtain rfl := Option.some.inj repeated
    refine ⟨ordered.finished, fun item isItem => ?_⟩
    rcases List.mem_cons.mp isItem with same | isItem
    · rw [Option.some.inj same, Pattern.IsOrdered, ordered.items copy (List.mem_cons_self ..),
        bounds, Bool.and_self]
    · exact ordered.items item (List.mem_cons_of_mem _ isItem)
  · cases repeated

end OpenGroup

/-! ## Readings -/

/-- What was read of all open groups is ordered. -/
structure Reading.IsOrdered (reading : Reading) : Prop where
  inner : reading.inner.IsOrdered
  outer : ∀ group ∈ reading.outer, group.IsOrdered

/-- The upper bound that is read is at least the lower one. -/
theorem isOrdered_bounds? {text : List Char} {least : Nat} {most : Option Nat} {rest : Rest}
    (read : bounds? text = some ((least, most), rest)) : most.all (least ≤ ·) = true := by
  simp only [bounds?, Option.bind_eq_bind, Option.bind_eq_some_iff, Option.pure_def] at read
  rcases read with ⟨⟨lower, afterLower⟩, -, lower, -, read⟩
  split at read
  · cases read
    simp
  · cases read
    rfl
  · simp only [Option.bind_eq_some_iff] at read
    rcases read with ⟨⟨upper, afterUpper⟩, -, upper, -, read⟩
    split at read
    · split at read
      · rename_i inOrder
        cases read
        simpa using inOrder
      · cases read
    · cases read
  · cases read

theorem isOrdered_dot? {flags : Flags} {dot : Pattern} (isDot : flags.dot? = some dot) :
    dot.IsOrdered = true := by
  simp only [Flags.dot?] at isDot
  split at isDot
  · cases isDot
    rfl
  · cases isDot

namespace Reading

variable {reading next : Reading}

theorem IsOrdered.withInner (ordered : reading.IsOrdered) {inner : OpenGroup}
    (ofInner : inner.IsOrdered) : (reading.withInner inner).IsOrdered :=
  ⟨ofInner, ordered.outer⟩

theorem IsOrdered.push (ordered : reading.IsOrdered) {item : Pattern}
    (ofItem : item.IsOrdered = true) : (reading.push item).IsOrdered :=
  ordered.withInner (ordered.inner.push ofItem)

theorem IsOrdered.repeat? (ordered : reading.IsOrdered) {least : Nat} {most : Option Nat}
    (bounds : most.all (least ≤ ·) = true) {rest later : Rest}
    (repeated : reading.repeat? least most rest = some (next, later)) : next.IsOrdered := by
  rcases Option.bind_eq_some_iff.mp repeated with ⟨inner, isInner, equal⟩
  cases equal
  exact ordered.withInner (ordered.inner.repeat? bounds isInner)

theorem IsOrdered.open? (ordered : reading.IsOrdered) {text later : List Char}
    (opened : reading.open? text = some (next, later)) : next.IsOrdered := by
  have outer : ∀ group ∈ reading.inner :: reading.outer, group.IsOrdered :=
    List.forall_mem_cons.mpr ⟨ordered.inner, ordered.outer⟩
  rcases Option.bind_eq_some_iff.mp opened with ⟨⟨opening, rest⟩, -, equal⟩
  cases opening with
  | flags flags =>
      cases equal
      refine ordered.withInner ⟨ordered.inner.finished, fun item isItem => ?_⟩
      rcases List.mem_cons.mp isItem with same | isItem
      · cases same
      · exact ordered.inner.items item isItem
  | group flags name =>
      cases name with
      | none =>
          cases equal
          exact ⟨OpenGroup.isOrdered_begin flags, outer⟩
      | some name =>
          dsimp only at equal
          split at equal
          · cases equal
          · cases equal
            exact ⟨OpenGroup.isOrdered_begin flags, outer⟩

theorem IsOrdered.close? (ordered : reading.IsOrdered) (closed : reading.close? = some next) :
    next.IsOrdered := by
  rw [Reading.close?] at closed
  split at closed
  · cases closed
  · rename_i group outer isOuter
    cases closed
    obtain ⟨ofGroup, ofOuter⟩ := List.forall_mem_cons.mp (isOuter ▸ ordered.outer)
    exact ⟨ofGroup.push ordered.inner.whole, ofOuter⟩

theorem IsOrdered.escaped? (ordered : reading.IsOrdered) {text later : List Char}
    (escaped : reading.escaped? text = some (next, later)) : next.IsOrdered := by
  rcases Option.bind_eq_some_iff.mp escaped with ⟨⟨escape, rest⟩, -, equal⟩
  cases escape with
  | char c =>
      cases equal
      exact ordered.push rfl
  | set chars =>
      cases equal
      exact ordered.push rfl
  | «at» condition =>
      cases equal
      exact ordered.push rfl

/-- No step of a reading leaves the ordered patterns. -/
theorem IsOrdered.step? (ordered : reading.IsOrdered) {c : Char} {rest later : Rest}
    (stepped : reading.step? c rest = some (next, later)) : next.IsOrdered := by
  simp only [Reading.step?] at stepped
  split at stepped
  · cases stepped
    exact ordered
  · split at stepped
    · cases stepped
      exact ordered
    · split at stepped
      · exact ordered.open? stepped
      · rcases Option.map_eq_some_iff.mp stepped with ⟨closed, isClosed, equal⟩
        cases equal
        exact ordered.close? isClosed
      · cases stepped
        exact ordered.withInner ordered.inner.alternate
      · rcases Option.bind_eq_some_iff.mp stepped with ⟨⟨chars, after⟩, -, equal⟩
        cases equal
        exact ordered.push rfl
      · exact ordered.repeat? rfl stepped
      · exact ordered.repeat? rfl stepped
      · exact ordered.repeat? rfl stepped
      · rcases Option.bind_eq_some_iff.mp stepped with ⟨⟨⟨least, most⟩, after⟩, read, repeated⟩
        exact ordered.repeat? (isOrdered_bounds? read) repeated
      · rcases Option.map_eq_some_iff.mp stepped with ⟨dot, isDot, equal⟩
        cases equal
        exact ordered.push (isOrdered_dot? isDot)
      · cases stepped
        exact ordered.push rfl
      · cases stepped
        exact ordered.push rfl
      · exact ordered.escaped? stepped
      · cases stepped
        exact ordered.push rfl

theorem IsOrdered.run? (ordered : reading.IsOrdered) {text : List Char} {pattern : Pattern}
    (read : reading.run? text = some pattern) : pattern.IsOrdered = true := by
  induction reading, text using Reading.run?.induct with
  | case1 reading isWhole =>
      rw [Reading.run?, if_pos isWhole] at read
      exact Option.some.inj read ▸ ordered.inner.whole
  | case2 reading isPart =>
      rw [Reading.run?, if_neg isPart] at read
      cases read
  | case3 reading c rest stuck =>
      rw [Reading.run?, stuck] at read
      cases read
  | case4 reading c rest next later stepped shorter ih =>
      simp only [Reading.run?, stepped, shorter, dite_true] at read
      exact ih (ordered.step? stepped) read
  | case5 reading c rest next later stepped longer =>
      simp only [Reading.run?, stepped, longer, dite_false] at read
      cases read

end Reading

/-- The bounds of all repetitions in a pattern that was written are in order. -/
theorem isOrdered_of_ofText? {text : String} {pattern : Pattern}
    (read : ofText? text = some pattern) : pattern.IsOrdered = true :=
  Reading.IsOrdered.run? ⟨OpenGroup.isOrdered_begin _, by simp⟩ read

/-- Whatever pattern was written, a text matches it exactly if the pattern describes a piece. -/
theorem isMatch_of_ofText? {written : String} {pattern : Pattern}
    (read : ofText? written = some pattern) (text : String) :
    pattern.isMatch text = true ↔
      ∃ passed rest, text.toList = passed ++ rest ∧
        ∃ stop, pattern.Describes ⟨passed.getLast?, rest⟩ stop :=
  isMatch_iff (isOrdered_of_ofText? read) text

end Whittle.Pattern

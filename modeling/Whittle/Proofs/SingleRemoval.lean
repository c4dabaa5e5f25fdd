import Whittle.Proofs.Probing

/-!
# Removing one candidate

A site is a skeleton together with the frames around it, one for each node that
it is inside of.  Something else can be put in its place, or nothing: then the
gap spreads outwards from frame to frame as far as the slots let it, and no
other part is touched.

`reduce_nth_of_site` says that a pass which is to remove one candidate does just
that at the site of the candidate, and `apply_nth_eq_replaced` says it of programs.
-/

namespace Whittle

/-! ## Frames and sites -/

/-- A node without one of its parts. -/
structure Frame where
  label : Option Label
  before : List (Slot × Skeleton)
  slot : Slot
  after : List (Slot × Skeleton)

namespace Frame

/-- The node with something in the free slot. -/
def plug (frame : Frame) (tree : Skeleton) : Skeleton :=
  .node frame.label (frame.before ++ (frame.slot, tree) :: frame.after)

/--
The node once its part has been replaced or deleted.  Whether it keeps a part
that it cannot do without depends on the node as it was.
-/
def refill (shields : Skeleton → Bool) (frame : Frame) (before : Skeleton)
    (after : Option Skeleton) : Option Skeleton :=
  (frame.slot.fill (shields (frame.plug before)) before after).map fun parts =>
    .node frame.label (frame.before ++ parts ++ frame.after)

/-- The frame without the parts that the kind sweeps out of lists. -/
def swept (pass : Pass) (frame : Frame) : Frame :=
  { frame with
    before := Skeleton.sweptParts pass frame.before
    after := Skeleton.sweptParts pass frame.after }

end Frame

/-- A skeleton in the frames around it, outermost first. -/
structure Site where
  frames : List Frame
  tree : Skeleton

namespace Site

/-- The site seen from one frame further out. -/
def under (frame : Frame) (site : Site) : Site :=
  ⟨frame :: site.frames, site.tree⟩

/-- The skeleton that the site is a site of. -/
def whole (site : Site) : Skeleton :=
  site.frames.foldr Frame.plug site.tree

/-- Replace what is inside frames, or delete it and let the gap spread outwards. -/
def replacedIn (shields : Skeleton → Bool) (tree : Skeleton) (after : Option Skeleton) :
    List Frame → Option Skeleton
  | [] => after
  | frame :: frames =>
      frame.refill shields (frames.foldr Frame.plug tree) (replacedIn shields tree after frames)

/-- Replace what is at the site, or delete it. -/
def replaced (shields : Skeleton → Bool) (after : Option Skeleton) (site : Site) :
    Option Skeleton :=
  replacedIn shields site.tree after site.frames

/-- The site without the parts that the kind sweeps out of lists. -/
def swept (pass : Pass) (site : Site) : Site :=
  ⟨site.frames.map (Frame.swept pass), site.tree.swept pass⟩

@[simp]
theorem under_tree (frame : Frame) (site : Site) : (site.under frame).tree = site.tree :=
  rfl

@[simp]
theorem under_whole (frame : Frame) (site : Site) :
    (site.under frame).whole = frame.plug site.whole :=
  rfl

@[simp]
theorem under_swept (pass : Pass) (frame : Frame) (site : Site) :
    (site.under frame).swept pass = (site.swept pass).under (frame.swept pass) :=
  rfl

@[simp]
theorem under_replaced (shields : Skeleton → Bool) (after : Option Skeleton) (frame : Frame)
    (site : Site) :
    (site.under frame).replaced shields after =
      frame.refill shields site.whole (site.replaced shields after) :=
  rfl

end Site

namespace Skeleton

mutual

/-- All sites of a skeleton, each before those inside it. -/
def sites : Skeleton → List Site
  | .node label parts => ⟨[], .node label parts⟩ :: sitesInParts label [] parts

/-- All sites in the parts of a node, of which some come before. -/
def sitesInParts (label : Option Label) (before : List (Slot × Skeleton)) :
    List (Slot × Skeleton) → List Site
  | [] => []
  | (slot, tree) :: after =>
      tree.sites.map (Site.under ⟨label, before, slot, after⟩) ++
        sitesInParts label (before ++ [(slot, tree)]) after

end

/-- The sites of the candidates in a skeleton. -/
def candidateSites (pass : Pass) (tree : Skeleton) : List Site :=
  tree.sites.filter fun site => pass.isCandidateAt site.tree

mutual

/-- The sites are in the order of the skeletons at them. -/
theorem sites_map_tree :
    (tree : Skeleton) → tree.sites.map Site.tree = tree.selfAndDescendants
  | .node label parts => by
      have ofParts := sitesInParts_map_tree label [] parts
      simp [sites, selfAndDescendants, descendants, ofParts]

theorem sitesInParts_map_tree (label : Option Label) (before : List (Slot × Skeleton)) :
    (parts : List (Slot × Skeleton)) →
      (sitesInParts label before parts).map Site.tree = inParts parts
  | [] => rfl
  | (slot, tree) :: after => by
      have head := sites_map_tree tree
      have tail := sitesInParts_map_tree label (before ++ [(slot, tree)]) after
      have under : Site.tree ∘ Site.under ⟨label, before, slot, after⟩ = Site.tree := rfl
      simp [sitesInParts, inParts, under, head, tail, selfAndDescendants]

end

variable (pass : Pass)

theorem length_candidateSites (tree : Skeleton) :
    (tree.candidateSites pass).length = tree.candidatesIn pass := by
  rw [candidatesIn, ← sites_map_tree, List.countP_map, List.countP_eq_length_filter]
  rfl

/-- The candidate at an index is inside one of the parts. -/
theorem exists_part_of_getElem? {label : Option Label} {before parts : List (Slot × Skeleton)}
    {index : Nat} {site : Site}
    (found : ((sitesInParts label before parts).filter fun site =>
      pass.isCandidateAt site.tree)[index]? = some site) :
    ∃ front slot tree back inner,
      parts = front ++ (slot, tree) :: back ∧
        site = inner.under ⟨label, before ++ front, slot, back⟩ ∧
          candidatesInParts pass front ≤ index ∧
            (tree.candidateSites pass)[index - candidatesInParts pass front]? = some inner := by
  induction parts generalizing before index with
  | nil => simp [sitesInParts] at found
  | cons part rest ih =>
      rcases part with ⟨slot, tree⟩
      let frame : Frame := ⟨label, before, slot, rest⟩
      have headSites : (tree.sites.map (Site.under frame)).filter
            (fun site => pass.isCandidateAt site.tree) =
          (tree.candidateSites pass).map (Site.under frame) := by
        rw [List.filter_map]
        rfl
      rw [sitesInParts, List.filter_append, headSites] at found
      by_cases inHead : index < tree.candidatesIn pass
      · rw [List.getElem?_append_left (by simpa [length_candidateSites] using inHead),
          List.getElem?_map, Option.map_eq_some_iff] at found
        rcases found with ⟨inner, atIndex, rfl⟩
        exact ⟨[], slot, tree, rest, inner, rfl, by simp [frame], Nat.zero_le _, atIndex⟩
      · rw [List.getElem?_append_right (by simpa [length_candidateSites] using inHead),
          List.length_map, length_candidateSites] at found
        rcases ih found with ⟨front, slot', tree', back, inner, rfl, rfl, past, atIndex⟩
        refine ⟨(slot, tree) :: front, slot', tree', back, inner, rfl, by simp, ?_, ?_⟩
        · simp only [candidatesInParts_cons]
          omega
        · rw [candidatesInParts_cons, Nat.sub_add_eq]
          exact atIndex

/-! ## What is removed -/

/-- The candidates that are not met because the node around them is selected. -/
def hiddenIn (tree : Skeleton) : Nat :=
  if pass.kind.revisits then 0 else candidatesInParts pass tree.parts

/--
The pass that is to remove one candidate meets it, and replaces what is at its
site in what a probe would leave.
-/
structure RemovesAt (tree : Skeleton) (index : Nat) (site : Site) : Prop where
  whole : site.whole = tree
  swept : (site.swept pass).whole = tree.swept pass
  value : (tree.reduce pass (.nth index)).value =
    (site.swept pass).replaced pass.shieldsAt (pass.replacement site.tree)
  changed : (tree.reduce pass (.nth index)).changed = true
  reached : index < (tree.reduce pass (.nth index)).candidates
  counted : (tree.reduce pass (.nth index)).candidates + hiddenIn pass site.tree =
    tree.candidatesIn pass

/-- All parts but the one with the candidate are left as by a probe. -/
theorem reduceParts_nth_of_removesAt (single : pass.kind.isBatchOnly = false) (shielded : Bool)
    (slot : Slot) (back : List (Slot × Skeleton)) {front : List (Slot × Skeleton)}
    {tree : Skeleton} {index : Nat} {site : Site} (past : candidatesInParts pass front ≤ index)
    (removes : RemovesAt pass tree (index - candidatesInParts pass front) site) :
    let outcome := tree.reduce pass (.nth (index - candidatesInParts pass front))
    reduceParts pass shielded (front ++ (slot, tree) :: back) (.nth index) =
      ⟨(slot.fill shielded tree outcome.value).map
          (sweptParts pass front ++ · ++ sweptParts pass back),
        candidatesInParts pass front + outcome.candidates + candidatesInParts pass back, true⟩ := by
  have kept : pass.sweepsAt slot tree = false := by
    cases sweeps : pass.sweepsAt slot tree with
    | false => rfl
    | true =>
        have none := candidatesIn_of_sweepsAt pass sweeps
        have reached := removes.reached
        have counted := removes.counted
        omega
  have beyond : (Mode.nth index).after (candidatesInParts pass front) =
      .nth (index - candidatesInParts pass front) := by
    rw [Mode.after, if_neg (by omega)]
  have done : (Mode.nth (index - candidatesInParts pass front)).after
      (tree.reduce pass (.nth (index - candidatesInParts pass front))).candidates = .probe := by
    rw [Mode.after, if_pos removes.reached]
  simp only [reduceParts_append, Survey.bind_apply,
    reduceParts_nth_past pass single shielded front past, reduceParts_probe_value,
    reduceParts_probe_candidates pass single, beyond,
    reduceParts_cons_apply pass shielded back _ kept, done, Survey.pure_apply, removes.changed]
  cases slot.fill shielded tree
      (tree.reduce pass (.nth (index - candidatesInParts pass front))).value <;>
    simp [Nat.add_assoc]

/-- What a shielded node keeps does not depend on what was swept. -/
theorem fill_swept (slot : Slot) (parent tree : Skeleton) (after : Option Skeleton) :
    slot.fill (pass.shieldsAt (parent.swept pass)) (tree.swept pass) after =
      slot.fill (pass.shieldsAt parent) tree after := by
  by_cases block : pass.kind = .block
  · have unguarded (tree : Skeleton) : pass.shieldsAt tree = false := by
      cases read : tree.read? <;>
        simp [Pass.shieldsAt, read, Pass.shields, block, RemovalKind.guardsMarkers]
    rw [unguarded, unguarded]
    cases after with
    | some tree => rfl
    | none => simp [Slot.fill]
  · rw [swept_of_ne_block pass block, swept_of_ne_block pass block]

/-- Parentheses are no candidates of the kind that removes casts. -/
theorem candidatesIn_unparenthesized (cast : pass.kind = .cast) (tree : Skeleton) :
    tree.unparenthesized.candidatesIn pass = tree.candidatesIn pass := by
  unfold unparenthesized
  split
  · next slot inner =>
      have other : pass.isCandidateAt (node (some .paren) [(slot, inner)]) = false := by
        rw [Bool.eq_false_iff]
        intro candidate
        rcases pass.exists_label_of_isCandidateAt candidate (by simp [cast]) with
          ⟨label, isLabel, removed⟩
        cases isLabel
        simp [Label.removedBy?, cast] at removed
      simp [candidatesIn_eq pass (node (some .paren) [(slot, inner)]), other]
  · rfl

/-- A selected node that is unwrapped has one operand, and uncovers its candidates. -/
theorem exists_uncovered_of_isCandidateAt {tree : Skeleton} (unwraps : pass.kind.revisits = true)
    (candidate : pass.isCandidateAt tree = true) :
    ∃ inner ∈ tree.descendants, pass.revisited? tree = some inner ∧
      inner.candidatesIn pass = candidatesInParts pass tree.parts := by
  have kind := RemovalKind.cast_or_parenthesized_of_revisits unwraps
  rcases pass.exists_operand_of_isCandidateAt candidate kind with ⟨label, operand, rfl, removed⟩
  have operandInside : operand ∈ (node (some label) [(.operand, operand)]).descendants := by
    simp [descendants, inParts]
  rcases kind with cast | paren
  · obtain ⟨ty, rfl⟩ : ∃ ty, label = .cast ty := by
      cases label <;> simp_all [Label.removedBy?]
    refine ⟨operand.unparenthesized, ?_, ?_, ?_⟩
    · unfold unparenthesized
      split
      · simp [descendants, inParts]
      · exact operandInside
    · simp [Pass.revisited?, Pass.replacement, cast, RemovalKind.revisits]
    · simp [candidatesIn_unparenthesized pass cast]
  · obtain rfl : label = .paren := by
      cases label <;> simp_all [Label.removedBy?]
    refine ⟨operand, operandInside, ?_, by simp⟩
    simp [Pass.revisited?, Pass.replacement, paren, RemovalKind.revisits]

/-- What takes the place of a selected candidate, and the candidates that are met in it. -/
theorem reduceSelected_probe (single : pass.kind ≠ .diagnosticLog) {tree : Skeleton}
    (candidate : pass.isCandidateAt tree = true) :
    (tree.reduceSelected pass .probe).value = pass.replacement tree ∧
      1 + (tree.reduceSelected pass .probe).candidates + hiddenIn pass tree =
        tree.candidatesIn pass := by
  cases unwraps : pass.kind.revisits with
  | false =>
      simp [reduceSelected, Pass.revisited?, unwraps, hiddenIn, candidatesIn_eq pass tree,
        candidate]
  | true =>
      have notBlock : pass.kind ≠ .block := by
        intro block
        simp [block, RemovalKind.revisits] at unwraps
      rcases exists_uncovered_of_isCandidateAt pass unwraps candidate with
        ⟨inner, _, uncovered, alike⟩
      have replacement : pass.replacement tree = some inner := by
        simpa [Pass.revisited?, unwraps] using uncovered
      have met := reduce_probe_candidates pass (pass.isBatchOnly_eq_false single) inner
      have left := reduce_probe_value pass inner
      rw [swept_of_ne_block pass notBlock] at left
      simp [reduceSelected, uncovered, replacement, met, left, alike, hiddenIn, unwraps,
        candidatesIn_eq pass tree, candidate]

/-- What is left when the removed candidate is the node itself. -/
theorem removesAt_root (single : pass.kind ≠ .diagnosticLog) {tree : Skeleton}
    (candidate : pass.isCandidateAt tree = true) : RemovesAt pass tree 0 ⟨[], tree⟩ := by
  rcases reduceSelected_probe pass single candidate with ⟨value, counted⟩
  have outcome : tree.reduce pass (.nth 0) =
      ⟨pass.replacement tree, 1 + (tree.reduceSelected pass .probe).candidates, true⟩ := by
    rw [reduce_of_isCandidateAt pass _ candidate (by simp [pass.isBatchOnly_eq_false single])]
    simp [Mode.selectsNext, Mode.after, value]
  refine ⟨rfl, ?_, ?_, ?_, ?_, ?_⟩
  · cases tree
    rfl
  · rw [outcome]
    rfl
  · rw [outcome]
  · rw [outcome]
    simp only
    omega
  · rw [outcome]
    exact counted

/-- What is left when the removed candidate is inside one of the parts. -/
theorem removesAt_under (single : pass.kind ≠ .diagnosticLog) {label : Option Label}
    {front back : List (Slot × Skeleton)} {slot : Slot} {tree : Skeleton} {index : Nat}
    {site : Site} (past : candidatesInParts pass front ≤ index)
    (removes : RemovesAt pass tree (index - candidatesInParts pass front) site) :
    let whole := node label (front ++ (slot, tree) :: back)
    RemovesAt pass whole (index + if pass.isCandidateAt whole then 1 else 0)
      (site.under ⟨label, front, slot, back⟩) := by
  intro whole
  have notBatchOnly := pass.isBatchOnly_eq_false single
  have parts := reduceParts_nth_of_removesAt pass notBatchOnly (pass.shieldsAt whole) slot back
    past removes
  have reached := removes.reached
  have counted := removes.counted
  have notSwept : pass.sweepsAt slot tree = false := by
    cases sweeps : pass.sweepsAt slot tree with
    | false => rfl
    | true =>
        have none := candidatesIn_of_sweepsAt pass sweeps
        omega
  have sweptWhole : ((site.under ⟨label, front, slot, back⟩).swept pass).whole =
      whole.swept pass := by
    simp [Frame.swept, Frame.plug, removes.swept, whole, Skeleton.swept, sweptParts, notSwept]
  have kept : whole.reduceKept pass (.nth index) =
      ⟨((site.under ⟨label, front, slot, back⟩).swept pass).replaced pass.shieldsAt
          (pass.replacement site.tree),
        candidatesInParts pass front +
          (tree.reduce pass (.nth (index - candidatesInParts pass front))).candidates +
          candidatesInParts pass back, true⟩ := by
    rw [Site.under_swept, Site.under_whole] at sweptWhole
    simp only [reduceKept_apply, whole, parts_node, label?_node, parts, Site.under_swept,
      Site.under_replaced, ← removes.value, Frame.refill]
    rw [sweptWhole, removes.swept, fill_swept]
    simp only [Option.map_map]
    rfl
  have inWhole : whole.candidatesIn pass =
      (if pass.isCandidateAt whole then 1 else 0) + (candidatesInParts pass front +
        (tree.candidatesIn pass + candidatesInParts pass back)) := by
    rw [candidatesIn_eq]
    simp [whole]
  have treeWhole : (site.under ⟨label, front, slot, back⟩).whole = whole := by
    simp [removes.whole, Frame.plug, whole]
  cases candidate : pass.isCandidateAt whole with
  | false =>
      have outcome := (reduce_of_not_isCandidateAt pass (.nth index) candidate).trans kept
      rw [candidate] at inWhole
      constructor
      case whole => exact treeWhole
      case swept => exact sweptWhole
      all_goals simp only [Bool.false_eq_true, if_false, Nat.add_zero, outcome, Site.under_tree]
      case reached => omega
      case counted =>
        simp only [Bool.false_eq_true, if_false] at inWhole
        omega
  | true =>
      have outcome : whole.reduce pass (.nth (index + 1)) =
          ⟨((whole.reduceKept pass (.nth index))).value,
            1 + (whole.reduceKept pass (.nth index)).candidates, true⟩ := by
        rw [reduce_of_isCandidateAt pass _ candidate (by simp [notBatchOnly])]
        simp [Mode.selectsNext, Mode.after, kept]
      rw [candidate] at inWhole
      rw [kept] at outcome
      constructor
      case whole => exact treeWhole
      case swept => exact sweptWhole
      all_goals simp only [if_true, outcome, Site.under_tree]
      case reached => omega
      case counted =>
        simp only [if_true] at inWhole
        omega

/-- A pass that is to remove one candidate does so at its site. -/
theorem reduce_nth_of_site (single : pass.kind ≠ .diagnosticLog) (tree : Skeleton) :
    ∀ index site, (tree.candidateSites pass)[index]? = some site →
      RemovesAt pass tree index site := by
  induction tree using Skeleton.induct with
  | node label parts ih =>
      intro index site found
      -- The node itself comes before everything inside it, so an index that
      -- does not name the node names something in one of the parts.
      have inside (index : Nat) (found : ((sitesInParts label [] parts).filter fun site =>
            pass.isCandidateAt site.tree)[index]? = some site) :
          RemovesAt pass (node label parts)
            (index + if pass.isCandidateAt (node label parts) then 1 else 0) site := by
        rcases exists_part_of_getElem? pass found with
          ⟨front, slot, tree, back, inner, rfl, rfl, past, atIndex⟩
        have ofTree := ih (slot, tree) (by simp) _ inner atIndex
        exact removesAt_under pass single past ofTree
      cases candidate : pass.isCandidateAt (node label parts) with
      | false =>
          rw [candidate] at inside
          rw [candidateSites, sites, List.filter_cons_of_neg (by simp [candidate])] at found
          exact inside index found
      | true =>
          rw [candidate] at inside
          rw [candidateSites, sites, List.filter_cons_of_pos (by simp [candidate])] at found
          cases index with
          | zero =>
              obtain rfl : ⟨[], node label parts⟩ = site := by simpa using found
              exact removesAt_root pass single candidate
          | succ before => exact inside before (by simpa using found)

end Skeleton

/-! ## Programs -/

/-- The nodes of a program in the order of the walk, each with the site at which it stands. -/
def Program.places (program : Program) : List (Node × Site) :=
  program.nodes.zip (Skeleton.sitesInParts none [] (Member.entries program.members))

theorem Program.map_skeleton_nodes_eq (program : Program) :
    program.nodes.map Node.skeleton =
      (Skeleton.sitesInParts none [] (Member.entries program.members)).map Site.tree := by
  rw [program.nodes_map_skeleton, Skeleton.sitesInParts_map_tree]
  rfl

/-- What stands at the site of a node is that node. -/
theorem Program.tree_of_mem_places {program : Program} {place : Node × Site}
    (member : place ∈ program.places) : place.2.tree = place.1.skeleton := by
  rcases List.getElem_of_mem member with ⟨index, inZip, rfl⟩
  have alike := congrArg (fun trees => trees[index]?) program.map_skeleton_nodes_eq
  simp only [places, List.length_zip, Nat.lt_min] at inZip
  simp only [List.getElem?_map, List.getElem?_eq_getElem inZip.1,
    List.getElem?_eq_getElem inZip.2, Option.map_some, Option.some.injEq] at alike
  simpa only [places, List.getElem_zip] using alike.symm

namespace Pass

variable (pass : Pass)

/-- The places of the candidates of a pass, in the order of the walk. -/
def candidatePlaces (program : Program) : List (Node × Site) :=
  program.places.filter fun place => pass.isCandidate place.1

theorem candidatePlaces_map_fst (program : Program) :
    (pass.candidatePlaces program).map Prod.fst = program.nodes.filter pass.isCandidate := by
  have nodes : program.places.map Prod.fst = program.nodes := by
    refine List.map_fst_zip (Nat.le_of_eq ?_)
    simpa using congrArg List.length program.map_skeleton_nodes_eq
  rw [← nodes, List.filter_map]
  rfl

theorem candidatePlaces_map_snd (program : Program) :
    (pass.candidatePlaces program).map Prod.snd = program.skeleton.candidateSites pass := by
  have sites : program.places.map Prod.snd =
      Skeleton.sitesInParts none [] (Member.entries program.members) := by
    refine List.map_snd_zip (Nat.le_of_eq ?_)
    simpa using (congrArg List.length program.map_skeleton_nodes_eq).symm
  have alike : pass.candidatePlaces program =
      program.places.filter ((fun site => pass.isCandidateAt site.tree) ∘ Prod.snd) := by
    refine List.filter_congr fun place member => ?_
    simp [Program.tree_of_mem_places member, isCandidateAt_skeleton]
  rw [alike, ← List.filter_map, sites]
  simp [Skeleton.candidateSites, Program.skeleton, Skeleton.sites, isCandidateAt_node_none]

/-- The place of a candidate gives its site. -/
theorem site_of_candidatePlaces {program : Program} {index : Nat} {node : Node} {site : Site}
    (found : (pass.candidatePlaces program)[index]? = some (node, site)) :
    site.tree = node.skeleton ∧ (program.skeleton.candidateSites pass)[index]? = some site := by
  have member := (List.mem_filter.mp (List.mem_of_getElem? found)).1
  refine ⟨Program.tree_of_mem_places member, ?_⟩
  rw [← pass.candidatePlaces_map_snd, List.getElem?_map, found]
  rfl

/-- A probe meets as many candidates as the walk. -/
theorem probe_eq_candidatesIn (single : pass.kind ≠ .diagnosticLog) (program : Program) :
    pass.probe program = program.skeleton.candidatesIn pass := by
  rw [← Skeleton.reduce_probe_candidates pass (pass.isBatchOnly_eq_false single),
    pass.apply_skeleton]
  rfl

/--
A pass that is to remove one candidate does just that.  Of the candidates that
the walk meets it takes the one with the index, and what is left is what a probe
leaves with that one node replaced, or deleted together with those around it
that cannot do without it.
-/
theorem apply_nth_eq_replaced (program : Program) (index : Nat)
    (single : pass.kind ≠ .diagnosticLog) (inRange : index < pass.probe program) :
    ∃ node site,
      (program.nodes.filter pass.isCandidate)[index]? = some node ∧
        (pass.candidatePlaces program)[index]? = some (node, site) ∧
          site.whole = program.skeleton ∧
            site.tree = node.skeleton ∧
              (site.swept pass).whole = (pass.apply program .probe).value.skeleton ∧
                (pass.apply program (.nth index)).changed = true ∧
                  ((site.swept pass).replaced pass.shieldsAt
                    (pass.replacement node.skeleton)).bind Program.ofSkeleton? =
                      some (pass.apply program (.nth index)).value := by
  rw [pass.probe_eq_candidatesIn single, ← Skeleton.length_candidateSites,
    ← pass.candidatePlaces_map_snd, List.length_map] at inRange
  obtain ⟨⟨node, site⟩, found⟩ : ∃ place, (pass.candidatePlaces program)[index]? = some place :=
    ⟨_, List.getElem?_eq_getElem inRange⟩
  rcases pass.site_of_candidatePlaces found with ⟨atNode, atSite⟩
  have removes := Skeleton.reduce_nth_of_site pass single program.skeleton index site atSite
  have probed := Skeleton.reduce_probe_value pass program.skeleton
  have value := removes.value
  have changed := removes.changed
  rw [pass.apply_skeleton] at probed value changed
  refine ⟨node, site, ?_, found, removes.whole, atNode, ?_, changed, ?_⟩
  · rw [← pass.candidatePlaces_map_fst, List.getElem?_map, found]
    rfl
  · rw [removes.swept]
    exact (Option.some.inj probed).symm
  · rw [← atNode, ← value, Option.bind_some, pass.ofSkeleton?_apply]

/-- One assignment inside another. -/
def chainedAssignment : Program :=
  ⟨[⟨[], .method ⟨[], "void", "f", [],
    [⟨[], .expr (.assign .assign (.ident "x")
      (.assign .assign (.ident "y") (.literal (.int 1))))⟩]⟩⟩]⟩

/-- The inner of two assignments takes the outer one and the whole statement with it. -/
theorem apply_nth_eq_replaced_chained :
    ∃ node site,
      (chainedAssignment.nodes.filter (isCandidate ⟨.assignment, .standard⟩))[1]? = some node ∧
        (candidatePlaces ⟨.assignment, .standard⟩ chainedAssignment)[1]? = some (node, site) ∧
          site.whole = chainedAssignment.skeleton ∧
            site.tree = node.skeleton ∧
              (site.swept ⟨.assignment, .standard⟩).whole =
                (apply ⟨.assignment, .standard⟩ chainedAssignment .probe).value.skeleton ∧
                (apply ⟨.assignment, .standard⟩ chainedAssignment (.nth 1)).changed = true ∧
                  ((site.swept ⟨.assignment, .standard⟩).replaced
                    (shieldsAt ⟨.assignment, .standard⟩)
                    (replacement ⟨.assignment, .standard⟩ node.skeleton)).bind
                      Program.ofSkeleton? =
                        some (apply ⟨.assignment, .standard⟩ chainedAssignment (.nth 1)).value :=
  apply_nth_eq_replaced ⟨.assignment, .standard⟩ chainedAssignment 1 (by decide) (by decide)

end Pass

end Whittle

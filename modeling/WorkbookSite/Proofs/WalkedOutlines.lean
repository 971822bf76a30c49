import WorkbookSite.Proofs.OutlineNesting

/-!
# Walks through outlines

A walk takes the last of its pending outlines, visits it, and puts its children
behind the others, the last child first.  `Outline.placed` lists the nodes of an
outline with their places in it, where a place is the list of the numbers of the
children that lead there.  The walk visits the nodes in the order of their
places, and each of them once.
-/

namespace WorkbookSite.Outline

/-- A walk on its way. -/
structure Walk where
  visited : List Outline
  /-- What is still to be visited, the next one last. -/
  pending : List Outline

namespace Walk

/-- Visits the last pending outline, unless there is none. -/
def round? (walk : Walk) : Option Walk :=
  walk.pending.getLast?.map fun outline =>
    ⟨walk.visited ++ [outline],
      walk.pending.dropLast ++ outline.children.reverse⟩

/-- The walk after so many rounds, unless it has ended before. -/
def after? : Nat → Walk → Option Walk
  | 0, walk => some walk
  | rounds + 1, walk => walk.round?.bind (after? rounds)

theorem round?_of_pending (visited waiting : List Outline)
    (outline : Outline) :
    round? ⟨visited, waiting ++ [outline]⟩ =
      some ⟨visited ++ [outline], waiting ++ outline.children.reverse⟩ := by
  simp [round?]

end Walk

theorem sizeList_reverse (outlines : List Outline) :
    sizeList outlines.reverse = sizeList outlines := by
  induction outlines with
  | nil => rfl
  | cons outline outlines induction =>
      rw [List.reverse_cons, sizeList_append, induction]
      simp only [sizeList]
      omega

theorem size_eq (outline : Outline) :
    outline.size = 1 + sizeList outline.children := by
  cases outline with
  | node entry children => exact size.eq_1 entry children

theorem preorder_eq (outline : Outline) :
    outline.preorder = outline :: preorderList outline.children := by
  cases outline with
  | node entry children => exact preorder.eq_1 entry children

theorem preorderList_eq_flatMap (outlines : List Outline) :
    preorderList outlines = outlines.flatMap preorder := by
  induction outlines with
  | nil => rfl
  | cons outline outlines induction =>
      rw [preorderList, List.flatMap_cons, induction]

/-- A round leaves what is visited and still to be visited as it is, taken
together in preorder, and one node less is pending. -/
theorem Walk.round?_keeps {walk next : Walk} (went : walk.round? = some next) :
    next.visited ++ preorderList next.pending.reverse =
        walk.visited ++ preorderList walk.pending.reverse ∧
      sizeList next.pending + 1 = sizeList walk.pending := by
  obtain ⟨visited, pending⟩ := walk
  obtain rfl | ⟨waiting, outline, rfl⟩ := List.eq_nil_or_concat' pending
  · cases went
  · rw [round?_of_pending] at went
    cases went
    constructor
    · simp [preorderList, preorder_eq outline, preorderList_append]
    · simp only [sizeList_append, sizeList_reverse, sizeList, size_eq outline]
      omega

/-- The walk ends after as many rounds as there are pending nodes, and it has
visited them in preorder. -/
theorem Walk.after?_sizeList (walk : Walk) :
    walk.after? (sizeList walk.pending) =
      some ⟨walk.visited ++ preorderList walk.pending.reverse, []⟩ := by
  induction rounds : sizeList walk.pending generalizing walk with
  | zero =>
      obtain ⟨visited, pending⟩ := walk
      cases pending with
      | nil => simp [after?, preorderList]
      | cons outline outlines =>
          rw [sizeList, size_eq] at rounds
          omega
  | succ rounds induction =>
      obtain ⟨visited, pending⟩ := walk
      obtain rfl | ⟨waiting, outline, rfl⟩ := List.eq_nil_or_concat' pending
      · cases rounds
      · have went := round?_of_pending visited waiting outline
        obtain ⟨same, left⟩ := round?_keeps went
        rw [after?, went, Option.bind_some, induction _ (by omega), same]

mutual

/-- The nodes of an outline with their places, in preorder. -/
def placed : Outline → List (List Nat × Outline)
  | .node entry children => ([], .node entry children) :: placedFrom 0 children

/-- The nodes below the children that are counted from `number`. -/
def placedFrom (number : Nat) : List Outline → List (List Nat × Outline)
  | [] => []
  | outline :: outlines =>
      outline.placed.map (Prod.map (number :: ·) id) ++
        placedFrom (number + 1) outlines

end

/-- The node at a place. -/
def at? : Outline → List Nat → Option Outline
  | outline, [] => some outline
  | outline, number :: place =>
      match outline.children[number]? with
      | none => none
      | some child => child.at? place

theorem placed_eq (outline : Outline) :
    outline.placed = ([], outline) :: placedFrom 0 outline.children := by
  cases outline with
  | node entry children => exact placed.eq_1 entry children

theorem at?_cons (outline : Outline) (number : Nat) (place : List Nat) :
    outline.at? (number :: place) =
      outline.children[number]?.bind (·.at? place) := by
  rw [at?]
  cases outline.children[number]? <;> rfl

theorem placedFrom_append (number : Nat) (first second : List Outline) :
    placedFrom number (first ++ second) =
      placedFrom number first ++
        placedFrom (number + first.length) second := by
  induction first generalizing number with
  | nil => rfl
  | cons outline outlines induction =>
      simp only [List.cons_append, placedFrom, induction, List.append_assoc,
        List.length_cons, Nat.add_assoc, Nat.add_comm 1]

mutual

theorem map_snd_placed (outline : Outline) :
    outline.placed.map Prod.snd = outline.preorder := by
  cases outline with
  | node entry children =>
      rw [placed, preorder, List.map_cons, map_snd_placedFrom]

theorem map_snd_placedFrom (number : Nat) (outlines : List Outline) :
    (placedFrom number outlines).map Prod.snd = preorderList outlines := by
  cases outlines with
  | nil => rfl
  | cons outline outlines =>
      rw [placedFrom, preorderList, List.map_append, map_snd_placedFrom,
        List.map_map, ← map_snd_placed outline]
      rfl

end

mutual

theorem mem_placed_iff {outline node : Outline} {place : List Nat} :
    (place, node) ∈ outline.placed ↔ outline.at? place = some node := by
  cases outline with
  | node entry children =>
      rw [placed, List.mem_cons, mem_placedFrom_iff]
      cases place with
      | nil => simp [at?, eq_comm]
      | cons number place =>
          simp [at?_cons, Outline.children, Option.bind_eq_some_iff]

/-- Below children that are counted from a number, the first part of a place
says which of them it is below. -/
theorem mem_placedFrom_iff {number : Nat} {outlines : List Outline}
    {place : List Nat} {node : Outline} :
    (place, node) ∈ placedFrom number outlines ↔
      ∃ index below child, place = (number + index) :: below ∧
        outlines[index]? = some child ∧ child.at? below = some node := by
  cases outlines with
  | nil => simp [placedFrom]
  | cons outline outlines =>
      rw [placedFrom, List.mem_append, List.mem_map, mem_placedFrom_iff]
      constructor
      · rintro (⟨⟨below, found⟩, listed, same⟩ |
          ⟨index, below, child, rfl, listed, found⟩)
        · cases same
          exact ⟨0, below, outline, rfl, rfl, mem_placed_iff.mp listed⟩
        · exact ⟨index + 1, below, child, by rw [Nat.add_right_comm]; rfl,
            listed, found⟩
      · rintro ⟨index, below, child, rfl, listed, found⟩
        cases index with
        | zero =>
            cases listed
            exact .inl ⟨(below, node), mem_placed_iff.mpr found, rfl⟩
        | succ index =>
            exact .inr ⟨index, below, child, by rw [Nat.add_right_comm]; rfl,
              listed, found⟩

end

mutual

theorem pairwise_placed (outline : Outline) :
    (outline.placed.map Prod.fst).Pairwise (· < ·) := by
  cases outline with
  | node entry children =>
      rw [placed, List.map_cons, List.pairwise_cons]
      refine ⟨?_, pairwise_placedFrom 0 children⟩
      intro place listed
      obtain ⟨⟨place, node⟩, found, rfl⟩ := List.mem_map.mp listed
      obtain ⟨index, below, -, rfl, -⟩ := mem_placedFrom_iff.mp found
      exact List.nil_lt_cons _ _

theorem pairwise_placedFrom (number : Nat) (outlines : List Outline) :
    ((placedFrom number outlines).map Prod.fst).Pairwise (· < ·) := by
  cases outlines with
  | nil => exact List.Pairwise.nil
  | cons outline outlines =>
      rw [placedFrom, List.map_append, List.map_map, List.pairwise_append]
      refine ⟨?_, pairwise_placedFrom (number + 1) outlines, ?_⟩
      · have inside := pairwise_placed outline
        rw [List.pairwise_map] at inside ⊢
        exact inside.imp fun less => List.cons_lt_cons_self.mpr less
      · intro first listed second later
        obtain ⟨⟨below, node⟩, -, rfl⟩ := List.mem_map.mp listed
        obtain ⟨⟨place, other⟩, found, rfl⟩ := List.mem_map.mp later
        obtain ⟨index, rest, -, rfl, -⟩ := mem_placedFrom_iff.mp found
        exact List.cons_lt_cons_iff.mpr (.inl (by omega))

end

/-- The nodes of a subtree stand one after the other, and their places begin
with its place. -/
theorem exists_segment {outline subtree : Outline} {place : List Nat}
    (found : outline.at? place = some subtree) :
    ∃ before after, outline.placed =
      before ++ subtree.placed.map (Prod.map (place ++ ·) id) ++ after := by
  induction place generalizing outline with
  | nil =>
      cases found
      have same : Prod.map (fun below : List Nat => [] ++ below)
          (id : Outline → Outline) = id := rfl
      exact ⟨[], [], by rw [same, List.map_id, List.append_nil]; rfl⟩
  | cons number place induction =>
      rw [at?_cons, Option.bind_eq_some_iff] at found
      obtain ⟨child, listed, inside⟩ := found
      obtain ⟨before, after, segment⟩ := induction inside
      obtain ⟨bounded, rfl⟩ := List.getElem?_eq_some_iff.mp listed
      have split : outline.children = outline.children.take number ++
          outline.children[number] :: outline.children.drop (number + 1) := by
        rw [List.getElem_cons_drop, List.take_append_drop]
      have length : (outline.children.take number).length = number := by
        rw [List.length_take]
        omega
      refine ⟨([], outline) :: placedFrom 0 (outline.children.take number) ++
          before.map (Prod.map (number :: ·) id),
        after.map (Prod.map (number :: ·) id) ++
          placedFrom (number + 1) (outline.children.drop (number + 1)), ?_⟩
      rw [placed_eq]
      conv_lhs => rw [split]
      rw [placedFrom_append, placedFrom, length, Nat.zero_add, segment]
      simp [Prod.map, Function.comp_def]

/-- The walk ends, after one round for each node, and visits the nodes in the
order in which the recursion on the tree lists them: an outline before its
children, and these from the first to the last.  Each node, told by its place,
is visited once and in the order of the places, and a subtree is visited without
a break, starting at its own node. -/
theorem walk_visits_once (outline : Outline) :
    Walk.after? outline.size ⟨[], [outline]⟩ = some ⟨outline.walk, []⟩ ∧
      outline.walk = outline :: outline.children.flatMap walk ∧
      outline.walk = outline.placed.map Prod.snd ∧
      (outline.placed.map Prod.fst).Pairwise (· < ·) ∧
      (∀ place node, (place, node) ∈ outline.placed ↔
        outline.at? place = some node) ∧
      ∀ place subtree, outline.at? place = some subtree →
        ∃ before after,
          outline.placed = before ++
            subtree.placed.map (Prod.map (place ++ ·) id) ++ after ∧
          outline.walk =
            before.map Prod.snd ++ subtree.walk ++ after.map Prod.snd := by
  refine ⟨?ends, ?recursion, ?listed, pairwise_placed outline,
    fun _ _ => mem_placed_iff, ?segments⟩
  case ends =>
    have ended := Walk.after?_sizeList ⟨[], [outline]⟩
    rw [walk_eq_preorder]
    simpa [sizeList, preorderList] using ended
  case recursion =>
    have each : walk = preorder := funext walk_eq_preorder
    rw [each, preorder_eq, preorderList_eq_flatMap]
  case listed => rw [walk_eq_preorder, map_snd_placed]
  case segments =>
    intro place subtree found
    obtain ⟨before, after, segment⟩ := exists_segment found
    refine ⟨before, after, segment, ?_⟩
    have nodes := congrArg (List.map Prod.snd) segment
    simpa [map_snd_placed, walk_eq_preorder, Function.comp_def] using nodes

end WorkbookSite.Outline

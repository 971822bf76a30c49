import Mathlib.Data.List.Nodup
import Mathlib.Data.List.TakeWhile
import WorkbookSite.Proofs.OpenedOutlines

/-!
# Order and nesting of outlines

A walk with pending subtrees visits an outline in preorder, and the preorder of
a nested list of entries is that list again.  `Outline.edges` lists every entry
together with the one it stands under; in a nested list this is the nearest
earlier entry that lies less deep.
-/

namespace WorkbookSite

/-- The last of the entries read so far that lies less deep than `depth`; the
root entry if there is none. -/
def nearestShallower (earlier : List Entry) (depth : Nat) : Entry :=
  (earlier.reverse.find? (·.depth < depth)).getD .root

namespace Outline

theorem preorderList_append (first second : List Outline) :
    preorderList (first ++ second) =
      preorderList first ++ preorderList second := by
  induction first with
  | nil => rfl
  | cons outline outlines induction => simp [preorderList, induction]

theorem mem_preorder (outline : Outline) : outline ∈ outline.preorder := by
  cases outline with
  | node entry children => exact List.mem_cons_self

theorem mem_preorderList_of_mem {outlines : List Outline} {outline : Outline}
    (member : outline ∈ outlines) : outline ∈ preorderList outlines := by
  induction outlines with
  | nil => cases member
  | cons first outlines induction =>
      rw [preorderList]
      rcases List.mem_cons.mp member with rfl | later
      · exact List.mem_append_left _ (mem_preorder outline)
      · exact List.mem_append_right _ (induction later)

/-- Pending subtrees are visited one after the other, each in preorder. -/
theorem walkPending_eq_preorderList (pending : List Outline) :
    walkPending pending = preorderList pending := by
  fun_induction walkPending pending with
  | case1 => rfl
  | case2 entry children pending induction =>
      rw [induction, preorderList_append]
      simp [preorderList, preorder]

theorem walk_eq_preorder (outline : Outline) :
    outline.walk = outline.preorder := by
  rw [walk, walkPending_eq_preorderList]
  simp [preorderList]

/-- No entry is lost, repeated or moved when a list of entries is nested. -/
theorem entries_forest (entries : List Entry) :
    (preorderList (forest entries)).map entry = entries := by
  fun_induction forest entries with
  | case1 => rfl
  | case2 first rest inner outer =>
      simp only [preorderList, preorder, List.map_append, List.map_cons,
        inner, outer]
      simp [entry, List.takeWhile_append_dropWhile]

mutual

/-- Each entry below the top one with the entry it stands under, in
preorder. -/
def edges : Outline → List (Entry × Entry)
  | .node entry children => edgesBelow entry children

def edgesBelow (parent : Entry) : List Outline → List (Entry × Entry)
  | [] => []
  | outline :: outlines =>
      (parent, outline.entry) :: (outline.edges ++ edgesBelow parent outlines)

end

/-- The entry `child` stands directly under the entry `parent` somewhere in
the outline. -/
def StandsUnder (outline : Outline) (child parent : Entry) : Prop :=
  ∃ above ∈ outline.walk, above.entry = parent ∧
    ∃ below ∈ above.children, below.entry = child

theorem mem_edgesBelow_of_mem {parent : Entry} {outlines : List Outline}
    {child : Outline} (member : child ∈ outlines) :
    (parent, child.entry) ∈ edgesBelow parent outlines := by
  induction outlines with
  | nil => cases member
  | cons outline outlines induction =>
      rw [edgesBelow]
      rcases List.mem_cons.mp member with rfl | later
      · exact List.mem_cons_self
      · exact List.mem_cons_of_mem _
          (List.mem_append_right _ (induction later))

mutual

theorem mem_edges_of_mem_preorder {outline parent child : Outline}
    (visited : parent ∈ outline.preorder) (member : child ∈ parent.children) :
    (parent.entry, child.entry) ∈ outline.edges := by
  cases outline with
  | node top children =>
      rw [preorder] at visited
      rw [edges]
      rcases List.mem_cons.mp visited with rfl | below
      · exact mem_edgesBelow_of_mem member
      · exact mem_edgesBelow_of_mem_preorderList below member

theorem mem_edgesBelow_of_mem_preorderList {top : Entry}
    {outlines : List Outline} {parent child : Outline}
    (visited : parent ∈ preorderList outlines)
    (member : child ∈ parent.children) :
    (parent.entry, child.entry) ∈ edgesBelow top outlines := by
  cases outlines with
  | nil => simp [preorderList] at visited
  | cons outline outlines =>
      rw [preorderList] at visited
      rw [edgesBelow]
      apply List.mem_cons_of_mem
      rcases List.mem_append.mp visited with first | later
      · exact List.mem_append_left _
          (mem_edges_of_mem_preorder first member)
      · exact List.mem_append_right _
          (mem_edgesBelow_of_mem_preorderList later member)

end

mutual

theorem exists_of_mem_edges {outline : Outline} {edge : Entry × Entry}
    (member : edge ∈ outline.edges) :
    ∃ above ∈ outline.preorder, above.entry = edge.1 ∧
      ∃ below ∈ above.children, below.entry = edge.2 := by
  cases outline with
  | node top children =>
      rw [edges] at member
      rcases exists_of_mem_edgesBelow member with direct | inside
      · obtain ⟨first, below, isChild, second⟩ := direct
        exact ⟨.node top children, by simp [preorder], first.symm, below,
          isChild, second⟩
      · obtain ⟨above, visited, found⟩ := inside
        exact ⟨above, by simp [preorder, visited], found⟩

theorem exists_of_mem_edgesBelow {parent : Entry} {outlines : List Outline}
    {edge : Entry × Entry} (member : edge ∈ edgesBelow parent outlines) :
    (edge.1 = parent ∧ ∃ below ∈ outlines, below.entry = edge.2) ∨
      ∃ above ∈ preorderList outlines, above.entry = edge.1 ∧
        ∃ below ∈ above.children, below.entry = edge.2 := by
  cases outlines with
  | nil => cases member
  | cons outline outlines =>
      rw [edgesBelow] at member
      rcases List.mem_cons.mp member with rfl | later
      · exact .inl ⟨rfl, outline, List.mem_cons_self, rfl⟩
      · rcases List.mem_append.mp later with inside | beside
        · obtain ⟨above, visited, found⟩ := exists_of_mem_edges inside
          exact .inr ⟨above, by simp [preorderList, visited], found⟩
        · rcases exists_of_mem_edgesBelow beside with direct | inside
          · obtain ⟨first, below, isChild, second⟩ := direct
            exact .inl ⟨first, below, List.mem_cons_of_mem _ isChild, second⟩
          · obtain ⟨above, visited, found⟩ := inside
            exact .inr ⟨above, by simp [preorderList, visited], found⟩

end

theorem standsUnder_iff_mem_edges {outline : Outline} {child parent : Entry} :
    outline.StandsUnder child parent ↔ (parent, child) ∈ outline.edges := by
  rw [StandsUnder, walk_eq_preorder]
  constructor
  · intro visit
    obtain ⟨above, visited, rfl, below, isChild, rfl⟩ := visit
    exact mem_edges_of_mem_preorder visited isChild
  · exact exists_of_mem_edges

/-- Each entry with the nearest one read before it that lies less deep; the
entries in `read` were read before, the latest first. -/
def nearestEdges (read : List Entry) : List Entry → List (Entry × Entry)
  | [] => []
  | entry :: entries =>
      ((read.find? (·.depth < entry.depth)).getD .root, entry) ::
        nearestEdges (entry :: read) entries

theorem nearestEdges_append (read first second : List Entry) :
    nearestEdges read (first ++ second) =
      nearestEdges read first ++
        nearestEdges (first.reverse ++ read) second := by
  induction first generalizing read with
  | nil => rfl
  | cons entry entries induction => simp [nearestEdges, induction]

/-- The root lies above all rows, so reading it first changes nothing. -/
theorem nearestEdges_root (read entries : List Entry) :
    nearestEdges (read ++ [.root]) entries = nearestEdges read entries := by
  induction entries generalizing read with
  | nil => rfl
  | cons entry entries induction =>
      have rest := induction (entry :: read)
      rw [List.cons_append] at rest
      simp only [nearestEdges, rest, List.find?_append]
      cases read.find? (·.depth < entry.depth) with
      | some nearest => rfl
      | none => by_cases above : Entry.root.depth < entry.depth <;> simp [above]

theorem mem_nearestEdges_iff {read entries : List Entry}
    {parent child : Entry} :
    (parent, child) ∈ nearestEdges read entries ↔
      ∃ before after, entries = before ++ child :: after ∧
        parent = nearestShallower (read.reverse ++ before) child.depth := by
  induction entries generalizing read with
  | nil => simp [nearestEdges]
  | cons entry entries induction =>
      rw [nearestEdges, List.mem_cons, induction]
      constructor
      · intro edge
        rcases edge with same | ⟨before, after, split, nearest⟩
        · obtain ⟨rfl, rfl⟩ := Prod.mk.inj same
          exact ⟨[], entries, rfl, by simp [nearestShallower]⟩
        · exact ⟨entry :: before, after, by simp [split],
            by simpa using nearest⟩
      · intro edge
        obtain ⟨before, after, split, nearest⟩ := edge
        cases before with
        | nil =>
            obtain ⟨rfl, rfl⟩ := List.cons.inj split
            exact .inl (by simp [nearest, nearestShallower])
        | cons first before =>
            obtain ⟨rfl, others⟩ := List.cons.inj split
            exact .inr ⟨before, after, others, by simpa using nearest⟩

/-- The children of an entry were nested from the rows after it: all rows
between the entry and its next child lie at least as deep as that child. -/
theorem edgesBelow_forest (parent : Entry) (read between : List Entry)
    (entries : List Entry)
    (below : ∀ entry ∈ entries, parent.depth < entry.depth)
    (closed : ∀ entry ∈ between, ∀ next ∈ entries.head?,
      next.depth ≤ entry.depth) :
    edgesBelow parent (forest entries) =
      nearestEdges (between ++ parent :: read) entries := by
  fun_induction forest entries generalizing parent read between with
  | case1 => rfl
  | case2 first rest inner outer =>
      have belowFirst : parent.depth < first.depth := below first (by simp)
      have nearest : (between ++ parent :: read).find?
          (·.depth < first.depth) = some parent := by
        have none : between.find? (·.depth < first.depth) = none := by
          apply List.find?_eq_none.mpr
          intro entry member
          simpa using closed entry member first (by simp)
        simp [List.find?_append, none, belowFirst]
      have descendants := inner first (between ++ parent :: read) []
        (fun entry member => by simpa using List.mem_takeWhile_imp member)
        (by simp)
      have siblings := outer parent read
        ((rest.takeWhile (first.depth < ·.depth)).reverse ++
          first :: between)
        (fun entry member => below entry (List.mem_cons_of_mem _
          ((List.dropWhile_sublist _).subset member)))
        (by
          intro entry member next head
          have notDeeper := depth_head_dropWhile head
          rcases List.mem_append.mp member with inside | before
          · have deeper : first.depth < entry.depth := by
              simpa using List.mem_takeWhile_imp (List.mem_reverse.mp inside)
            omega
          · rcases List.mem_cons.mp before with rfl | earlier
            · exact notDeeper
            · have order := closed entry earlier first (by simp)
              omega)
      have split := nearestEdges_append (first :: (between ++ parent :: read))
        (rest.takeWhile (first.depth < ·.depth))
        (rest.dropWhile (first.depth < ·.depth))
      rw [List.takeWhile_append_dropWhile] at split
      rw [edgesBelow, edges, descendants, siblings, nearestEdges, nearest,
        split]
      simp [entry]

/-- In the outline of a list of entries, each entry stands under the nearest
earlier one that lies less deep. -/
theorem edges_ofEntries {entries : List Entry}
    (deep : ∀ entry ∈ entries, 0 < entry.depth) :
    (ofEntries entries).edges = nearestEdges [] entries := by
  have nested := edgesBelow_forest .root [] [] entries deep (by simp)
  rw [ofEntries_eq_forest, edges, nested]
  exact nearestEdges_root [] entries

theorem walk_ofEntries (entries : List Entry) :
    (ofEntries entries).walk.map entry = .root :: entries := by
  rw [walk_eq_preorder]
  simp [ofEntries_eq_forest, preorder, entries_forest, entry]

/-- In the outline of different entries, an entry stands under the nearest
earlier one that lies less deep, and under no other. -/
theorem standsUnder_ofEntries_iff {before after : List Entry}
    {child parent : Entry} (different : (before ++ child :: after).Nodup)
    (deep : ∀ entry ∈ before ++ child :: after, 0 < entry.depth) :
    (ofEntries (before ++ child :: after)).StandsUnder child parent ↔
      parent = nearestShallower before child.depth := by
  rw [standsUnder_iff_mem_edges, edges_ofEntries deep, mem_nearestEdges_iff]
  constructor
  · intro edge
    obtain ⟨otherBefore, otherAfter, split, nearest⟩ := edge
    rw [List.nodup_middle] at different
    have fresh := (List.nodup_cons.mp different).1
    rw [List.mem_append, not_or] at fresh
    have same := (List.append_cons_inj_of_notMem fresh.1 fresh.2).mp split
    rw [nearest, same.1]
    rfl
  · intro same
    subst same
    exact ⟨before, after, rfl, rfl⟩

end Outline

end WorkbookSite

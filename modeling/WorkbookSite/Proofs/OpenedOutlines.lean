import Mathlib.Data.List.TakeWhile
import WorkbookSite.Outline

/-!
# Outlines read with a stack

What one entry does to the open outlines: it closes those at its depth or
deeper, and is opened inside of what is left.  Reading a list of entries this
way nests it: the entries that directly follow an entry and lie deeper are its
descendants.  `Outline.Opened.HasDepths` keeps the depths of the open outlines,
on which the warnings of a page depend alone.
-/

namespace WorkbookSite

namespace Outline

/-- Nests entries by depth: the deeper entries that directly follow an entry
are its descendants. -/
def forest : List Entry → List Outline
  | [] => []
  | entry :: rest =>
      .node entry (forest (rest.takeWhile (entry.depth < ·.depth))) ::
        forest (rest.dropWhile (entry.depth < ·.depth))
termination_by entries => entries.length
decreasing_by
  · have shorter := (List.takeWhile_sublist
      (fun item : Entry => decide (entry.depth < item.depth))
      (l := rest)).length_le
    simp only [List.length_cons]; omega
  · have shorter := (List.dropWhile_sublist
      (fun item : Entry => decide (entry.depth < item.depth))
      (l := rest)).length_le
    simp only [List.length_cons]; omega

/-- What follows the descendants of an entry lies no deeper than it. -/
theorem depth_head_dropWhile {depth : Nat} {entries : List Entry}
    {next : Entry}
    (head : next ∈ (entries.dropWhile (depth < ·.depth)).head?) :
    next.depth ≤ depth := by
  have refused := List.head?_dropWhile_not (fun entry : Entry =>
    decide (depth < entry.depth)) entries
  rw [Option.mem_def.mp head] at refused
  simpa using refused

/-- Makes the outlines the last children of `parent`. -/
def adoptAll (parent : Outline) (outlines : List Outline) : Outline :=
  .node parent.entry (parent.children ++ outlines)

theorem adoptAll_nil (parent : Outline) : parent.adoptAll [] = parent := by
  cases parent
  simp [adoptAll, entry, children]

theorem adoptAll_cons (parent outline : Outline) (outlines : List Outline) :
    parent.adoptAll (outline :: outlines) =
      (parent.adopt outline).adoptAll outlines := by
  simp [adoptAll, adopt, entry, children]

namespace Opened

variable {top parent : Outline} {around : List Outline} {depth : Nat}

theorem close_of_le (deep : depth ≤ top.entry.depth) :
    (⟨top, parent :: around⟩ : Opened).close depth =
      (⟨parent.adopt top, around⟩ : Opened).close depth :=
  if_pos deep

theorem close_of_lt (fits : around = [] ∨ top.entry.depth < depth) :
    (⟨top, around⟩ : Opened).close depth = ⟨top, around⟩ := by
  cases around with
  | nil => rfl
  | cons parent around =>
      have shallow := fits.resolve_left (List.cons_ne_nil parent around)
      exact if_neg (Nat.not_le_of_lt shallow)

/-- An entry that lies deeper than the innermost open outline is opened inside
of it. -/
theorem read_of_lt {entry : Entry}
    (fits : around = [] ∨ top.entry.depth < entry.depth) :
    (⟨top, around⟩ : Opened).read entry = ⟨.node entry [], top :: around⟩ := by
  rw [read, close_of_lt fits]

/-- Of the open outlines an entry only meets those that it leaves open. -/
theorem read_congr {first second : Opened} {entry : Entry}
    (same : first.close entry.depth = second.close entry.depth) :
    first.read entry = second.read entry := by
  rw [read, read, same]

theorem close_foldl_congr {first second : Opened} {entries : List Entry}
    {bound : Nat}
    (same : ∀ depth ≤ bound, first.close depth = second.close depth)
    (next : ∀ entry ∈ entries.head?, entry.depth ≤ bound)
    (low : depth ≤ bound) :
    (entries.foldl read first).close depth =
      (entries.foldl read second).close depth := by
  cases entries with
  | nil => exact same depth low
  | cons entry entries =>
      rw [List.foldl_cons, List.foldl_cons,
        read_congr (same entry.depth (next entry rfl))]

/-- Entries that lie deeper than the innermost open outline are nested below it,
as soon as they are closed. -/
theorem close_foldl_read (top : Outline) (around : List Outline) (depth : Nat)
    (entries : List Entry)
    (deeper : around = [] ∨ ∀ entry ∈ entries, top.entry.depth < entry.depth)
    (low : ∀ entry ∈ entries, depth ≤ entry.depth) :
    (entries.foldl read ⟨top, around⟩).close depth =
      (⟨top.adoptAll (forest entries), around⟩ : Opened).close depth := by
  fun_induction forest entries generalizing top around depth with
  | case1 => rw [adoptAll_nil, List.foldl_nil]
  | case2 first rest inner outer =>
      obtain ⟨lowFirst, lowRest⟩ := List.forall_mem_cons.mp low
      have taken {entry : Entry}
          (member : entry ∈ rest.takeWhile (first.depth < ·.depth)) :
          first.depth < entry.depth := by
        simpa using List.mem_takeWhile_imp member
      have dropped {entry : Entry}
          (member : entry ∈ rest.dropWhile (first.depth < ·.depth)) :
          entry ∈ rest :=
        (List.dropWhile_sublist _).subset member
      have opened : (⟨top, around⟩ : Opened).read first =
          ⟨.node first [], top :: around⟩ :=
        read_of_lt (deeper.imp_right (· first List.mem_cons_self))
      have closed : ∀ bound ≤ first.depth,
          ((rest.takeWhile (first.depth < ·.depth)).foldl read
            ⟨.node first [], top :: around⟩).close bound =
          (⟨top.adopt (.node first
            (forest (rest.takeWhile (first.depth < ·.depth)))), around⟩ :
              Opened).close bound := by
        intro bound within
        rw [inner (.node first []) (top :: around) bound
          (.inr fun entry member => taken member)
          fun entry member => Nat.le_trans within (Nat.le_of_lt (taken member))]
        exact close_of_le within
      have nested := outer (top.adopt (.node first
          (forest (rest.takeWhile (first.depth < ·.depth))))) around depth
        (deeper.imp_right fun deeper entry member =>
          deeper entry (List.mem_cons_of_mem first (dropped member)))
        fun entry member => lowRest entry (dropped member)
      calc
        _ = ((rest.takeWhile (first.depth < ·.depth) ++
              rest.dropWhile (first.depth < ·.depth)).foldl read
                ⟨.node first [], top :: around⟩).close depth := by
          rw [List.foldl_cons, opened, List.takeWhile_append_dropWhile]
        _ = _ := by
          rw [List.foldl_append, adoptAll_cons, ← nested]
          exact close_foldl_congr closed
            (fun entry member => depth_head_dropWhile member) lowFirst

/-- The depths of the open outlines from the inside out.  That of the outermost
is zero, and left out. -/
inductive HasDepths : Opened → List Nat → Prop where
  | outermost {top : Outline} (rooted : top.entry.depth = 0) :
      HasDepths ⟨top, []⟩ []
  | inside {top parent : Outline} {around : List Outline} {depths : List Nat}
      (outer : HasDepths ⟨parent, around⟩ depths) :
      HasDepths ⟨top, parent :: around⟩ (top.entry.depth :: depths)

theorem hasDepths_start : start.HasDepths [] := .outermost rfl

namespace HasDepths

variable {opened : Opened} {depths : List Nat}

theorem depth_top (has : opened.HasDepths depths) :
    opened.top.entry.depth = depths.headD 0 := by
  cases has with
  | outermost rooted => exact rooted
  | inside outer => rfl

theorem adopt (has : HasDepths ⟨parent, around⟩ depths) (child : Outline) :
    HasDepths ⟨parent.adopt child, around⟩ depths := by
  cases has with
  | outermost rooted => exact .outermost rooted
  | inside outer => exact .inside outer

theorem close (has : opened.HasDepths depths) (depth : Nat) :
    (opened.close depth).HasDepths (depths.dropWhile (depth ≤ ·)) := by
  obtain ⟨top, around⟩ := opened
  induction around generalizing top depths with
  | nil =>
      cases has with
      | outermost rooted => exact .outermost rooted
  | cons parent around induction =>
      cases has with
      | inside outer =>
          by_cases deep : depth ≤ top.entry.depth
          · rw [close_of_le deep,
              List.dropWhile_cons_of_pos (by simpa using deep)]
            exact induction (parent.adopt top) (outer.adopt top)
          · rw [close_of_lt (.inr (Nat.lt_of_not_le deep)),
              List.dropWhile_cons_of_neg (by simpa using deep)]
            exact .inside outer

/-- An entry closes the depths that are not smaller than its own, and opens its
own. -/
theorem read (has : opened.HasDepths depths) (entry : Entry) :
    (opened.read entry).HasDepths
      (entry.depth :: depths.dropWhile (entry.depth ≤ ·)) :=
  .inside (has.close entry.depth)

end HasDepths

end Opened

/-- Reading entries with a stack nests them by their depths. -/
theorem ofEntries_eq_forest (entries : List Entry) :
    ofEntries entries = .node .root (forest entries) := by
  have nested := Opened.close_foldl_read (.node .root []) [] 0 entries
    (.inl rfl) fun entry _ => Nat.zero_le entry.depth
  rw [ofEntries, Opened.start, nested]
  rfl

theorem entry_ofEntries (entries : List Entry) :
    (ofEntries entries).entry = .root := by
  rw [ofEntries_eq_forest]
  rfl

end Outline

end WorkbookSite

import WorkbookSite.Proofs.PageOutline
import WorkbookSite.Proofs.SheetPages

/-!
# Elements that skip levels

The warnings of a reading are decided while its rows are read, from the depths
of the ancestors that are open at that moment.  The innermost open ancestor of
an entry is the entry that it stands under in the finished outline, so the
warnings name the elements of the outline that lie more than one level below
what they stand under, in the order of a walk.
-/

namespace WorkbookSite

/-- An element that lies more than one level below its parent. -/
def Entry.skipsLevels (parent child : Entry) : Bool :=
  !child.isAttribute && parent.depth + 1 < child.depth

theorem Entry.skipsLevels_eq_false_iff {parent child : Entry}
    (deeper : parent.depth < child.depth) :
    parent.skipsLevels child = false ↔
      (child.isAttribute = false → child.depth = parent.depth + 1) := by
  rw [Entry.skipsLevels]
  cases child.isAttribute with
  | true => simp
  | false =>
      simp only [Bool.not_false, Bool.true_and, decide_eq_false_iff_not,
        forall_const]
      omega

/-- The warning for an entry of a sheet. -/
def DepthGap.ofEntry (sheet : String) (entry : Entry) : DepthGap :=
  ⟨sheet, entry.row, entry.key⟩

namespace Outline

mutual

/-- The edges of an outline come in the order of a walk, one for each entry
below the top one. -/
theorem children_edges (outline : Outline) :
    outline.edges.map Prod.snd = (outline.preorder.map entry).tail := by
  cases outline with
  | node top children =>
      rw [edges, preorder, List.map_cons, List.tail_cons,
        children_edgesBelow top children]

theorem children_edgesBelow (parent : Entry) (outlines : List Outline) :
    (edgesBelow parent outlines).map Prod.snd =
      (preorderList outlines).map entry := by
  cases outlines with
  | nil => rfl
  | cons outline outlines =>
      have here := children_edges outline
      rw [edgesBelow, preorderList, List.map_cons, List.map_append,
        List.map_append, here, children_edgesBelow parent outlines]
      cases outline
      rfl

end

/-- The open depths, the innermost first, after some entries have been read, the
latest first: for every depth, the innermost open one that is smaller is that of
the nearest entry that lies less deep. -/
def OpenAfter (depths : List Nat) (read : List Entry) : Prop :=
  ∀ depth, depths.find? (· < depth) =
    (read.find? (·.depth < depth)).map (·.depth)

theorem openAfter_nil : OpenAfter [] [] := fun _ => rfl

/-- The first depth that is not closed is the first one that is smaller. -/
theorem head?_dropWhile_le (depths : List Nat) (depth : Nat) :
    (depths.dropWhile (depth ≤ ·)).head? = depths.find? (· < depth) := by
  have closed : (fun other => !decide (other < depth)) =
      fun other => decide (depth ≤ other) := by
    funext other
    rw [← decide_not, decide_eq_decide, Nat.not_lt]
  rw [List.find?_eq_head?_dropWhile_not, closed]

/-- Depths that are closed are not smaller than any depth up to the one that
closes them. -/
theorem find?_dropWhile_le (depths : List Nat) {depth other : Nat}
    (order : other ≤ depth) :
    (depths.dropWhile (depth ≤ ·)).find? (· < other) =
      depths.find? (· < other) := by
  induction depths with
  | nil => rfl
  | cons first depths induction =>
      by_cases closed : depth ≤ first
      · have larger : ¬ first < other := by omega
        simp [closed, larger, induction]
      · simp [closed]

/-- Reading an entry closes the depths that are not smaller than its own, and
opens its own. -/
theorem OpenAfter.read {depths : List Nat} {read : List Entry}
    (openAfter : OpenAfter depths read) (entry : Entry) :
    OpenAfter (entry.depth :: depths.dropWhile (entry.depth ≤ ·))
      (entry :: read) := by
  intro depth
  by_cases below : entry.depth < depth
  · simp [below]
  · have order : depth ≤ entry.depth := Nat.le_of_not_lt below
    rw [List.find?_cons_of_neg (by simpa using below),
      List.find?_cons_of_neg (by simpa using below),
      find?_dropWhile_le depths order, openAfter depth]

/-- The innermost open depth is that of the entry the next one stands under. -/
theorem OpenAfter.headD_dropWhile {depths : List Nat} {read : List Entry}
    (openAfter : OpenAfter depths read) (depth : Nat) :
    (depths.dropWhile (depth ≤ ·)).headD 0 =
      ((read.find? (·.depth < depth)).getD .root).depth := by
  rw [List.headD_eq_head?_getD, head?_dropWhile_le, openAfter depth]
  cases read.find? (·.depth < depth) <;> rfl

theorem depth_lt_of_mem_nearestEdges {read entries : List Entry}
    (deep : ∀ entry ∈ entries, 0 < entry.depth) {parent child : Entry}
    (edge : (parent, child) ∈ nearestEdges read entries) :
    parent.depth < child.depth := by
  obtain ⟨before, after, rfl, rfl⟩ := mem_nearestEdges_iff.mp edge
  rw [nearestShallower]
  cases found : (read.reverse ++ before).reverse.find?
      (·.depth < child.depth) with
  | none => exact deep child (by simp)
  | some parent => simpa using List.find?_some found

end Outline

namespace Page

open Outline

/-- The warnings are those of the nearest earlier entries that lie less
deep. -/
theorem gapsBelow_eq_nearestEdges (sheet : String) {opened : Opened}
    {depths : List Nat} {read : List Entry} (has : opened.HasDepths depths)
    (openAfter : OpenAfter depths read) (entries : List Entry) :
    gapsBelow sheet opened entries =
      ((nearestEdges read entries).filter fun edge =>
        edge.1.skipsLevels edge.2).map fun edge => .ofEntry sheet edge.2 := by
  induction entries generalizing opened depths read with
  | nil => rfl
  | cons entry entries induction =>
      rw [gapsBelow, nearestEdges,
        induction (has.read entry) (openAfter.read entry),
        (has.close entry.depth).depth_top,
        openAfter.headD_dropWhile entry.depth, List.filter_cons,
        Entry.skipsLevels]
      split <;> rfl

variable {sheet : Sheet} {page : Page}

theorem edges_of_parse (parsed : parse sheet = .ok page) :
    page.root.edges = nearestEdges [] sheet.entries := by
  rw [root_of_parse parsed,
    edges_ofEntries (deep_of_standsIn sheet.standsIn_entries)]

theorem depthGaps_eq_gapsBelow (parsed : parse sheet = .ok page) :
    depthGaps sheet = gapsBelow sheet.name .start sheet.entries := by
  obtain ⟨layout, paths, entries, headed, found, read, -⟩ := of_parse parsed
  obtain ⟨describes, -⟩ := Layout.ofHeader_eq_ok headed
  obtain rfl := Sheet.eq_layout_of_describes describes
  rw [depthGaps, headed]
  simp only [found, (inLayout_of_parse parsed).readEntries_eq]

theorem depth_lt_of_standsUnder (parsed : parse sheet = .ok page)
    {parent child : Entry} (stands : page.root.StandsUnder child parent) :
    parent.depth < child.depth := by
  have edge := standsUnder_iff_mem_edges.mp stands
  rw [edges_of_parse parsed] at edge
  exact depth_lt_of_mem_nearestEdges
    (deep_of_standsIn sheet.standsIn_entries) edge

/-- The warnings of reading a page are those of the edges of its outline that
skip levels: one for each element that lies more than one level below the entry
it stands under, in the order of a walk, with the name of the sheet, the number
of the row and its key.  So there is none exactly if each element lies one level
below the entry it stands under. -/
theorem depthGaps_of_parse (parsed : parse sheet = .ok page) :
    depthGaps sheet =
        (page.root.edges.filter fun edge => edge.1.skipsLevels edge.2).map
          (fun edge => .ofEntry sheet.name edge.2) ∧
      page.root.edges.map Prod.snd = (page.root.walk.map entry).tail ∧
      (∀ parent child, (parent, child) ∈ page.root.edges ↔
        page.root.StandsUnder child parent) ∧
      (depthGaps sheet = [] ↔ ∀ parent child,
        page.root.StandsUnder child parent → child.isAttribute = false →
          child.depth = parent.depth + 1) := by
  have warned : depthGaps sheet =
      (page.root.edges.filter fun edge => edge.1.skipsLevels edge.2).map
        fun edge => .ofEntry sheet.name edge.2 := by
    rw [depthGaps_eq_gapsBelow parsed, edges_of_parse parsed]
    exact gapsBelow_eq_nearestEdges sheet.name Opened.hasDepths_start
      openAfter_nil sheet.entries
  refine ⟨warned, ?_, ?_, ?_⟩
  · rw [walk_eq_preorder, children_edges]
  · exact fun parent child => standsUnder_iff_mem_edges.symm
  · rw [warned, List.map_eq_nil_iff, List.filter_eq_nil_iff, Prod.forall]
    constructor
    · intro none parent child stands
      apply (Entry.skipsLevels_eq_false_iff
        (depth_lt_of_standsUnder parsed stands)).mp
      simpa using none parent child (standsUnder_iff_mem_edges.mp stands)
    · intro next parent child edge
      have stands := standsUnder_iff_mem_edges.mpr edge
      rw [Bool.not_eq_true]
      exact (Entry.skipsLevels_eq_false_iff
        (depth_lt_of_standsUnder parsed stands)).mpr (next parent child stands)

/-- Of the rows that skip columns, only one is an element that skips levels: the
row after it goes back, and the attribute may lie anywhere. -/
theorem depthGaps_skippingSheet :
    depthGaps skippingSheet = [⟨"skipping", 4, "em"⟩] ∧
      ∃ page, parse skippingSheet = .ok page ∧
        depthGaps skippingSheet =
          (page.root.edges.filter fun edge => edge.1.skipsLevels edge.2).map
            (fun edge => .ofEntry "skipping" edge.2) ∧
        page.root.edges.map Prod.snd = (page.root.walk.map entry).tail ∧
        (∀ parent child, (parent, child) ∈ page.root.edges ↔
          page.root.StandsUnder child parent) ∧
        (depthGaps skippingSheet = [] ↔ ∀ parent child,
          page.root.StandsUnder child parent → child.isAttribute = false →
            child.depth = parent.depth + 1) := by
  have accepted : (parse skippingSheet).toOption.isSome = true := by
    decide +kernel
  obtain ⟨page, found⟩ := Option.isSome_iff_exists.mp accepted
  have parsed := Outcome.eq_ok_of_toOption found
  exact ⟨by decide +kernel, page, parsed, depthGaps_of_parse parsed⟩

end Page

end WorkbookSite

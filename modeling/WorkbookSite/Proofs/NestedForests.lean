import WorkbookSite.Proofs.OutlineNesting

/-!
# Shapes of nested entries

Which outlines come from nesting a list of entries: those in which everything
lies deeper than what it stands under, and no outline lies deeper than one
beside it further up.  The entries of such outlines, one after the other, nest
to the same outlines again, also where depths are left out.
-/

namespace WorkbookSite.Outline

/-- The outlines stand side by side: none lies deeper than an earlier one. -/
def SideBySide (outlines : List Outline) : Prop :=
  outlines.Pairwise fun first second => second.entry.depth ≤ first.entry.depth

/-- What stands directly under an outline lies deeper, and side by side. -/
structure Nests (outline : Outline) : Prop where
  deeper : ∀ child ∈ outline.children, outline.entry.depth < child.entry.depth
  beside : SideBySide outline.children

instance (outlines : List Outline) : Decidable (SideBySide outlines) :=
  inferInstanceAs (Decidable (List.Pairwise _ outlines))

instance (outline : Outline) : Decidable outline.Nests :=
  decidable_of_iff
    ((∀ child ∈ outline.children, outline.entry.depth < child.entry.depth) ∧
      SideBySide outline.children)
    ⟨fun ⟨deeper, beside⟩ => ⟨deeper, beside⟩,
      fun nests => ⟨nests.deeper, nests.beside⟩⟩

theorem entry_mem_of_mem_forest {entries : List Entry} {outline : Outline}
    (member : outline ∈ forest entries) : outline.entry ∈ entries := by
  rw [← entries_forest entries]
  exact List.mem_map_of_mem (mem_preorderList_of_mem member)

/-- The first of the entries lies at least as deep as all outlines side by
side. -/
theorem SideBySide.depth_le_head {entries : List Entry}
    (beside : SideBySide (forest entries)) {outline : Outline}
    (member : outline ∈ forest entries) {head : Entry}
    (first : head ∈ entries.head?) : outline.entry.depth ≤ head.depth := by
  cases entries with
  | nil => cases first
  | cons entry rest =>
      obtain rfl : entry = head := by simpa using first
      rw [forest] at beside member
      rcases List.mem_cons.mp member with rfl | later
      · exact Nat.le_refl _
      · exact (List.pairwise_cons.mp beside).1 outline later

theorem nests_forest (entries : List Entry) :
    SideBySide (forest entries) ∧
      ∀ visited ∈ preorderList (forest entries), visited.Nests := by
  fun_induction forest entries with
  | case1 => exact ⟨.nil, List.forall_mem_nil _⟩
  | case2 first rest inner outer =>
      constructor
      · refine List.pairwise_cons.mpr ⟨?_, outer.1⟩
        intro later member
        cases head : (rest.dropWhile (first.depth < ·.depth)).head? with
        | none =>
            have empty := List.head?_eq_none_iff.mp head
            rw [empty, forest] at member
            cases member
        | some next =>
            exact Nat.le_trans (outer.1.depth_le_head member head)
              (depth_head_dropWhile head)
      · rw [preorderList, preorder]
        refine List.forall_mem_append.mpr ⟨?_, outer.2⟩
        refine List.forall_mem_cons.mpr ⟨⟨?_, inner.1⟩, inner.2⟩
        intro child member
        have taken := List.mem_takeWhile_imp (entry_mem_of_mem_forest member)
        exact of_decide_eq_true taken

mutual

/-- Everything below an outline lies deeper than it. -/
theorem depth_lt_of_mem_preorder {outline : Outline} {depth : Nat}
    (nests : ∀ visited ∈ outline.preorder, visited.Nests)
    (deep : depth < outline.entry.depth) :
    ∀ visited ∈ outline.preorder, depth < visited.entry.depth := by
  cases outline with
  | node entry children =>
      rw [preorder, List.forall_mem_cons] at nests ⊢
      refine ⟨deep, depth_lt_of_mem_preorderList nests.2 ?_⟩
      intro child member
      exact Nat.lt_trans deep (nests.1.deeper child member)

theorem depth_lt_of_mem_preorderList {outlines : List Outline} {depth : Nat}
    (nests : ∀ visited ∈ preorderList outlines, visited.Nests)
    (deep : ∀ outline ∈ outlines, depth < outline.entry.depth) :
    ∀ visited ∈ preorderList outlines, depth < visited.entry.depth := by
  cases outlines with
  | nil => exact List.forall_mem_nil _
  | cons outline outlines =>
      rw [preorderList, List.forall_mem_append] at nests ⊢
      rw [List.forall_mem_cons] at deep
      exact ⟨depth_lt_of_mem_preorder nests.1 deep.1,
        depth_lt_of_mem_preorderList nests.2 deep.2⟩

end

/-- Nothing of outlines that lie no deeper than an entry stands under it. -/
theorem takeWhile_entries {outlines : List Outline} {depth : Nat}
    (shallow : ∀ outline ∈ outlines, outline.entry.depth ≤ depth) :
    ((preorderList outlines).map entry).takeWhile (depth < ·.depth) = [] := by
  cases outlines with
  | nil => rfl
  | cons outline outlines =>
      obtain ⟨next, children⟩ := outline
      have order : next.depth ≤ depth := shallow _ List.mem_cons_self
      apply List.takeWhile_cons_of_neg
      intro deeper
      exact Nat.not_lt_of_le order (of_decide_eq_true deeper)

theorem dropWhile_entries {outlines : List Outline} {depth : Nat}
    (shallow : ∀ outline ∈ outlines, outline.entry.depth ≤ depth) :
    ((preorderList outlines).map entry).dropWhile (depth < ·.depth) =
      (preorderList outlines).map entry := by
  have whole := List.takeWhile_append_dropWhile
    (p := fun other : Entry => decide (depth < other.depth))
    (l := (preorderList outlines).map entry)
  rwa [takeWhile_entries shallow, List.nil_append] at whole

mutual

theorem forest_entries_children {outline : Outline}
    (nests : ∀ visited ∈ outline.preorder, visited.Nests) :
    forest ((preorderList outline.children).map entry) =
      outline.children := by
  cases outline with
  | node entry children =>
      rw [preorder, List.forall_mem_cons] at nests
      exact forest_entries nests.1.beside nests.2

/-- The entries of outlines that nest give these outlines again. -/
theorem forest_entries {outlines : List Outline}
    (beside : SideBySide outlines)
    (nests : ∀ visited ∈ preorderList outlines, visited.Nests) :
    forest ((preorderList outlines).map entry) = outlines := by
  cases outlines with
  | nil => simp [preorderList, forest]
  | cons outline outlines =>
      rw [preorderList, List.forall_mem_append] at nests
      obtain ⟨here, later⟩ := nests
      obtain ⟨shallow, besideLater⟩ := List.pairwise_cons.mp beside
      have nested := forest_entries_children here
      have others := forest_entries besideLater later
      obtain ⟨first, children⟩ := outline
      rw [Outline.entry] at shallow
      rw [preorder, List.forall_mem_cons] at here
      have inside : ∀ other ∈ (preorderList children).map entry,
          decide (first.depth < other.depth) = true := by
        intro other member
        obtain ⟨visited, listed, rfl⟩ := List.mem_map.mp member
        exact decide_eq_true
          (depth_lt_of_mem_preorderList here.2 here.1.deeper visited listed)
      rw [Outline.children] at nested
      rw [preorderList, preorder, List.map_append, List.map_cons,
        List.cons_append, forest, Outline.entry,
        List.takeWhile_append_of_pos inside, takeWhile_entries shallow,
        List.append_nil, List.dropWhile_append_of_pos inside,
        dropWhile_entries shallow, nested, others]

end

/-- An outline that nests below the root is the outline of its entries. -/
theorem eq_ofEntries {outline : Outline} (rooted : outline.entry = .root)
    (nests : ∀ visited ∈ outline.walk, visited.Nests) :
    outline = ofEntries ((outline.walk.map entry).tail) := by
  obtain ⟨top, children⟩ := outline
  obtain rfl : top = .root := rooted
  rw [walk_eq_preorder, preorder, List.forall_mem_cons] at nests
  have nested : forest ((preorderList children).map entry) = children :=
    forest_entries nests.1.beside nests.2
  rw [walk_eq_preorder, preorder, List.map_cons, List.tail_cons,
    ofEntries_eq_forest, nested]

end WorkbookSite.Outline

import WorkbookSite.Proofs.Outcomes
import WorkbookSite.Proofs.OutlineNesting
import WorkbookSite.Rendering

/-!
# Outlines whose entries are changed

A change of entries that keeps their depths keeps the shape of an outline, and
one that also keeps their names and the values they resolve to keeps what is
rendered.  If it numbers the rows anew, an error names the new number.
-/

namespace WorkbookSite

/-- The change keeps what an entry is and where it stands. -/
structure Entry.KeepsPlace (change : Entry → Entry) : Prop where
  key_eq : ∀ entry, (change entry).key = entry.key
  isAttribute_eq : ∀ entry, (change entry).isAttribute = entry.isAttribute
  row_eq : ∀ entry, (change entry).row = entry.row
  depth_eq : ∀ entry, (change entry).depth = entry.depth

/-- The change keeps what an entry is and how deep it lies, and numbers its row
anew. -/
structure Entry.MovesRows (move : Nat → Nat) (change : Entry → Entry) :
    Prop where
  key_eq : ∀ entry, (change entry).key = entry.key
  isAttribute_eq : ∀ entry, (change entry).isAttribute = entry.isAttribute
  row_eq : ∀ entry, (change entry).row = move entry.row
  depth_eq : ∀ entry, (change entry).depth = entry.depth

theorem Entry.KeepsPlace.movesRows {change : Entry → Entry}
    (keeps : Entry.KeepsPlace change) : Entry.MovesRows id change :=
  ⟨keeps.key_eq, keeps.isAttribute_eq, keeps.row_eq, keeps.depth_eq⟩

/-- The error with the number of its row, if it has one, changed. -/
def RenderError.moveRow (move : Nat → Nat) : RenderError → RenderError
  | .unknownElement row key => .unknownElement (move row) key
  | .fragment row locale value cause => .fragment (move row) locale value cause
  | .voidContent row key => .voidContent (move row) key
  | .unknownLocale page locale => .unknownLocale page locale

theorem RenderError.moveRow_id : RenderError.moveRow id = id := by
  funext error
  cases error <;> rfl

theorem Entry.MovesRows.renderValue_eq {move : Nat → Nat}
    {change : Entry → Entry} (moves : Entry.MovesRows move change)
    {entry : Entry} {locale : String} {order order' : List String}
    (same : (change entry).bestValue locale order =
      entry.bestValue locale order') :
    (change entry).renderValue locale order =
      (entry.renderValue locale order').mapError (.moveRow move) := by
  rw [Entry.renderValue, Entry.renderValue, same, moves.key_eq, moves.row_eq]
  split
  · rfl
  · rw [Outcome.mapError_mapError]
    rfl

namespace Outline

mutual

/-- The outline with every entry changed. -/
def mapEntries (change : Entry → Entry) : Outline → Outline
  | .node entry children =>
      .node (change entry) (mapEntriesList change children)

def mapEntriesList (change : Entry → Entry) : List Outline → List Outline
  | [] => []
  | outline :: outlines =>
      outline.mapEntries change :: mapEntriesList change outlines

end

variable {move : Nat → Nat} {change : Entry → Entry}

theorem entry_mapEntries (outline : Outline) :
    (outline.mapEntries change).entry = change outline.entry := by
  cases outline
  rfl

theorem mapEntriesList_eq_map (outlines : List Outline) :
    mapEntriesList change outlines = outlines.map (mapEntries change) := by
  induction outlines with
  | nil => rfl
  | cons outline outlines induction => rw [mapEntriesList, induction]; rfl

theorem forest_map (deep : ∀ entry, (change entry).depth = entry.depth)
    (entries : List Entry) :
    forest (entries.map change) = mapEntriesList change (forest entries) := by
  fun_induction forest entries with
  | case1 => simp [forest, mapEntriesList]
  | case2 first rest inner outer =>
      have deeper : ((fun entry : Entry =>
          decide ((change first).depth < entry.depth)) ∘ change) =
          fun entry => decide (first.depth < entry.depth) := by
        funext entry
        simp [deep]
      rw [List.map_cons, forest, List.takeWhile_map, List.dropWhile_map,
        deeper, inner, outer, mapEntriesList, mapEntries]

theorem ofEntries_map_of_moves (moves : Entry.MovesRows move change)
    (rooted : change .root = .root) (entries : List Entry) :
    ofEntries (entries.map change) = (ofEntries entries).mapEntries change := by
  rw [ofEntries_eq_forest, ofEntries_eq_forest, mapEntries, rooted,
    forest_map moves.depth_eq]

theorem ofEntries_map (keeps : Entry.KeepsPlace change)
    (rooted : change .root = .root) (entries : List Entry) :
    ofEntries (entries.map change) = (ofEntries entries).mapEntries change :=
  ofEntries_map_of_moves keeps.movesRows rooted entries

section Render

variable {locale : String} {order order' : List String}

theorem renderAttributes_mapEntriesList (moves : Entry.MovesRows move change)
    {outlines : List Outline}
    (same : ∀ outline ∈ outlines,
      (change outline.entry).bestValue locale order =
        outline.entry.bestValue locale order') :
    renderAttributes locale order (mapEntriesList change outlines) =
      renderAttributes locale order' outlines := by
  rw [renderAttributes, renderAttributes, mapEntriesList_eq_map,
    List.filter_map, List.map_map]
  have attributes : ((fun outline : Outline => outline.entry.isAttribute) ∘
      mapEntries change) = fun outline => outline.entry.isAttribute := by
    funext outline
    simp [entry_mapEntries, moves.isAttribute_eq]
  rw [attributes]
  apply List.map_congr_left
  intro outline member
  simp [entry_mapEntries, moves.key_eq, same outline (List.mem_of_mem_filter
    member)]

theorem any_isElement_mapEntriesList (moves : Entry.MovesRows move change)
    (outlines : List Outline) :
    (mapEntriesList change outlines).any (!·.entry.isAttribute) =
      outlines.any (!·.entry.isAttribute) := by
  rw [mapEntriesList_eq_map, List.any_map]
  congr 1
  funext outline
  simp [entry_mapEntries, moves.isAttribute_eq]

mutual

/-- A change that keeps the values which entries resolve to keeps what is
rendered, and the error but for the number of its row. -/
theorem render_mapEntries_of_moves (moves : Entry.MovesRows move change)
    {outline : Outline}
    (same : ∀ visited ∈ outline.preorder,
      (change visited.entry).bestValue locale order =
        visited.entry.bestValue locale order') :
    (outline.mapEntries change).render locale order =
      (outline.render locale order').mapError (.moveRow move) := by
  cases outline with
  | node entry children =>
      rw [preorder, List.forall_mem_cons] at same
      have here : (change entry).bestValue locale order =
          entry.bestValue locale order' := same.1
      have below := same.2
      have attributes :
          renderAttributes locale order (mapEntriesList change children) =
            renderAttributes locale order' children :=
        renderAttributes_mapEntriesList moves fun child member =>
          below child (mem_preorderList_of_mem member)
      rw [mapEntries, render, render,
        renderChildren_mapEntriesList_of_moves moves below,
        any_isElement_mapEntriesList moves, moves.renderValue_eq here,
        attributes, here, moves.key_eq, moves.row_eq]
      split
      · rfl
      · split
        · rfl
        · simp only [Outcome.mapError_bind]
          rfl

theorem renderChildren_mapEntriesList_of_moves
    (moves : Entry.MovesRows move change) {outlines : List Outline}
    (same : ∀ visited ∈ preorderList outlines,
      (change visited.entry).bestValue locale order =
        visited.entry.bestValue locale order') :
    renderChildren locale order (mapEntriesList change outlines) =
      (renderChildren locale order' outlines).mapError (.moveRow move) := by
  cases outlines with
  | nil => rfl
  | cons outline outlines =>
      rw [preorderList, List.forall_mem_append] at same
      rw [mapEntriesList, renderChildren, renderChildren, entry_mapEntries,
        moves.isAttribute_eq, render_mapEntries_of_moves moves same.1,
        renderChildren_mapEntriesList_of_moves moves same.2]
      split
      · rfl
      · simp only [Outcome.mapError_bind]
        rfl

end

/-- A change that also keeps the rows keeps the error as well. -/
theorem render_mapEntries (keeps : Entry.KeepsPlace change)
    {outline : Outline}
    (same : ∀ visited ∈ outline.preorder,
      (change visited.entry).bestValue locale order =
        visited.entry.bestValue locale order') :
    (outline.mapEntries change).render locale order =
      outline.render locale order' := by
  rw [render_mapEntries_of_moves keeps.movesRows same,
    RenderError.moveRow_id, Outcome.mapError_id]

end Render

end Outline

end WorkbookSite

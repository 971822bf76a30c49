import WorkbookSite.Proofs.AssociationLists
import WorkbookSite.Proofs.HeaderCells
import WorkbookSite.Proofs.NestedForests
import WorkbookSite.Proofs.OutlineSkeleton
import WorkbookSite.Proofs.PageOutline
import WorkbookSite.Proofs.StoredValues

/-!
# Outlines written as sheets

`Outline.Fits` says which outlines the pages of a layout have.  Every such
outline whose rows follow each other is the outline of a page: the sheet that
has one row for each entry, with the key in the column of its depth and the
values under their locales, is read as this outline again.
-/

namespace WorkbookSite

/-- The entry is one that a row of a sheet with this layout can have. -/
structure Entry.Fits (entry : Entry) (layout : Layout) : Prop where
  depth_pos : 1 ≤ entry.depth
  depth_le : entry.depth ≤ layout.attributeColumn + 1
  isAttribute_iff :
    entry.isAttribute = true ↔ entry.depth = layout.attributeColumn + 1
  named : entry.key ≠ ""
  isMacro_eq : entry.isMacro = isMacroKey entry.key
  values : entry.ValuesFit layout.locales

instance (entry : Entry) (layout : Layout) : Decidable (entry.Fits layout) :=
  decidable_of_iff
    ((1 ≤ entry.depth ∧ entry.depth ≤ layout.attributeColumn + 1) ∧
      (entry.isAttribute = true ↔
        entry.depth = layout.attributeColumn + 1) ∧
      entry.key ≠ "" ∧ entry.ValuesFit layout.locales)
    ⟨fun ⟨⟨positive, bound⟩, deepest, named, values⟩ =>
        ⟨positive, bound, deepest, named, rfl, values⟩,
      fun fits => ⟨⟨fits.depth_pos, fits.depth_le⟩, fits.isAttribute_iff,
        fits.named, fits.values⟩⟩

/-- The outline is one that a page with this layout can have. -/
structure Outline.Fits (outline : Outline) (layout : Layout) : Prop where
  rooted : outline.entry = .root
  entries : ∀ visited ∈ outline.walk.tail, visited.entry.Fits layout
  nests : ∀ visited ∈ outline.walk, visited.Nests
  bare : ∀ visited ∈ outline.walk, visited.Bare
  sorted : outline.walk.Pairwise (·.entry.row < ·.entry.row)

/-- The columns are those of some header row. -/
structure Layout.Sound (layout : Layout) : Prop where
  placed : 1 ≤ layout.attributeColumn
  named : layout.locales ≠ []
  distinct : layout.locales.Nodup
  filled : ∀ locale ∈ layout.locales, locale ≠ "" ∧ Text.trim locale = locale

/-- The texts of the entry have no blanks at their ends. -/
structure Entry.Trimmed (entry : Entry) : Prop where
  key : Text.trim entry.key = entry.key
  values : ∀ value ∈ entry.values, Text.trim value.2 = value.2

instance (entry : Entry) : Decidable entry.Trimmed :=
  decidable_of_iff (Text.trim entry.key = entry.key ∧
      ∀ value ∈ entry.values, Text.trim value.2 = value.2)
    ⟨fun ⟨key, values⟩ => ⟨key, values⟩,
      fun trimmed => ⟨trimmed.key, trimmed.values⟩⟩

/-- The outline fits the layout, all its texts are trimmed, and its rows follow
each other from the third row of a sheet on. -/
structure Outline.Written (outline : Outline) (layout : Layout) : Prop where
  fits : outline.Fits layout
  trimmed : ∀ visited ∈ outline.walk.tail, visited.entry.Trimmed
  numbered : outline.walk.tail.map (·.entry.row) =
    List.range' 3 outline.walk.tail.length

theorem Layout.fits_of_entryAt? {layout : Layout} {sheet : Sheet} {row : Nat}
    {entry : Entry} (found : layout.entryAt? sheet row = some entry) :
    entry.Fits layout := by
  have values := valuesFit_of_entryAt? found
  obtain ⟨column, key, rfl⟩ := Option.map_eq_some_iff.mp found
  obtain ⟨filled, inRange, -⟩ := List.find?_range_eq_some.mp key
  have inColumns := List.mem_range.mp inRange
  exact {
    depth_pos := Nat.succ_pos column
    depth_le := inColumns
    isAttribute_iff := by simp
    named := by simpa using filled
    isMacro_eq := rfl
    values := values }

namespace Page

theorem fits_of_parse {sheet : Sheet} {page : Page}
    (parsed : parse sheet = .ok page) : page.root.Fits sheet.layout := by
  have sorted := sorted_of_parse parsed
  obtain rfl := eq_page_of_parse parsed
  have walked : sheet.page.root.walk.map (·.entry) = .root :: sheet.entries :=
    Outline.walk_ofEntries sheet.entries
  have nested : sheet.page.root =
      .node .root (Outline.forest sheet.entries) :=
    Outline.ofEntries_eq_forest sheet.entries
  have entries : ∀ visited ∈ sheet.page.root.walk.tail,
      visited.entry.Fits sheet.layout := by
    intro visited member
    have below : visited.entry ∈ sheet.entries := by
      rw [← @List.tail_cons _ Entry.root sheet.entries, ← walked,
        ← List.map_tail]
      exact List.mem_map_of_mem member
    obtain ⟨row, -, found⟩ := List.mem_filterMap.mp below
    exact Layout.fits_of_entryAt? found
  have nests : ∀ visited ∈ sheet.page.root.walk, visited.Nests := by
    obtain ⟨beside, inside⟩ := Outline.nests_forest sheet.entries
    rw [Outline.walk_eq_preorder, nested]
    refine List.forall_mem_cons.mpr ⟨⟨?_, beside⟩, inside⟩
    intro child member
    obtain ⟨row, -, found⟩ :=
      List.mem_filterMap.mp (Outline.entry_mem_of_mem_forest member)
    exact (Layout.fits_of_entryAt? found).depth_pos
  have shape : AttributesDeepest (sheet.layout.attributeColumn + 1)
      sheet.entries := by
    intro entry member
    obtain ⟨row, -, found⟩ := List.mem_filterMap.mp member
    have fits := Layout.fits_of_entryAt? found
    exact ⟨fits.depth_le, fits.isAttribute_iff⟩
  have bare : ∀ visited ∈ sheet.page.root.walk, visited.Bare := by
    rw [Outline.walk_eq_preorder, nested]
    refine List.forall_mem_cons.mpr ⟨?_, Outline.bare_of_mem_forest shape⟩
    intro isAttribute
    cases isAttribute
  exact ⟨Outline.entry_ofEntries sheet.entries, entries, nests, bare, sorted⟩

end Page

/-- A list of values for some of the keys, in their order, is found again by
looking up all keys. -/
theorem filterMap_lookup_eq {keys : List String}
    {values : List (String × String)}
    (listed : (values.map Prod.fst).Sublist keys) (distinct : keys.Nodup)
    (filled : ∀ value ∈ values, value.2 ≠ "") :
    (keys.filterMap fun key =>
      let value := (values.lookup key).getD ""
      if value = "" then none else some (key, value)) = values := by
  induction keys generalizing values with
  | nil =>
      have none : values = [] := by simpa using listed
      simp [none]
  | cons key keys induction =>
      obtain ⟨fresh, distinctLater⟩ := List.nodup_cons.mp distinct
      rcases List.sublist_cons_iff.mp listed with later | ⟨others, names, later⟩
      · have missing : values.lookup key = none := by
          rw [← Option.not_isSome_iff_eq_none, isSome_lookup_iff]
          exact fun member => fresh (later.subset member)
        rw [List.filterMap_cons_none (by simp [missing])]
        exact induction later distinctLater filled
      · obtain ⟨⟨stored, text⟩, rest, rfl, same, rfl⟩ :=
          List.map_eq_cons_iff.mp names
        subst same
        obtain ⟨here, below⟩ := List.forall_mem_cons.mp filled
        rw [List.filterMap_cons_some
          (b := (stored, text)) (by simpa using here)]
        congr 1
        refine Eq.trans (List.filterMap_congr ?_)
          (induction later distinctLater below)
        intro other member
        have differs : (other == stored) = false :=
          beq_false_of_ne fun same => fresh (same ▸ member)
        simp only [List.lookup_cons, differs]

namespace Layout

/-- The row of an entry: its key in the column of its depth, and its values
under their locales. -/
def entryRow (layout : Layout) (entry : Entry) : List String :=
  ((List.range (layout.attributeColumn + 1)).map fun column =>
      if column + 1 = entry.depth then entry.key else "") ++
    layout.locales.map fun locale => (entry.values.lookup locale).getD ""

/-- A header row for the columns. -/
def headerRow (layout : Layout) : List String :=
  List.replicate layout.attributeColumn "" ++ "attribute" :: layout.locales

/-- A path row for the columns, with the same path in all of them. -/
def pathRow (layout : Layout) : List String :=
  "path" :: (List.replicate layout.attributeColumn "" ++
    layout.locales.map fun _ => "/")

/-- The sheet with the given first two rows and a row for each entry of an
outline. -/
def writeOutline (layout : Layout) (name : String)
    (header paths : List String) (outline : Outline) : Sheet :=
  .ofRows name (header :: paths ::
    (outline.walk.tail.map (·.entry)).map layout.entryRow)

variable {layout : Layout} {entry : Entry}

theorem entryRow_key {column : Nat}
    (inColumns : column ≤ layout.attributeColumn) :
    (layout.entryRow entry)[column]?.getD "" =
      if column + 1 = entry.depth then entry.key else "" := by
  have inside : column < layout.attributeColumn + 1 :=
    Nat.lt_succ_of_le inColumns
  rw [entryRow, List.getElem?_append_left (by simpa using inside)]
  simp [inside]

theorem entryRow_value {place : Nat} {locale : String}
    (listed : layout.locales[place]? = some locale) :
    (layout.entryRow entry)[layout.attributeColumn + 1 + place]?.getD "" =
      (entry.values.lookup locale).getD "" := by
  rw [entryRow, List.getElem?_append_right (by simp)]
  simp [listed]

theorem cell_writeOutline {name : String} {header paths : List String}
    {outline : Outline} {place : Nat}
    (found : (outline.walk.tail.map (·.entry))[place]? = some entry)
    (column : Nat) :
    (layout.writeOutline name header paths outline).cell (2 + place) column =
      Text.trim ((layout.entryRow entry)[column]?.getD "") := by
  rw [writeOutline, Sheet.cell_ofRows, Nat.add_comm 2, List.getElem?_cons_succ,
    List.getElem?_cons_succ, List.getElem?_map, found]
  rfl

theorem values_of_entryRow {sheet : Sheet} {row : Nat}
    (cells : ∀ column, sheet.cell row column =
      Text.trim ((layout.entryRow entry)[column]?.getD ""))
    (distinct : layout.locales.Nodup) (fits : entry.Fits layout)
    (trimmed : entry.Trimmed) : layout.rowValues sheet row = entry.values := by
  have stored : ∀ place locale, layout.locales[place]? = some locale →
      sheet.cell row (layout.attributeColumn + 1 + place) =
        (entry.values.lookup locale).getD "" := by
    intro place locale listed
    rw [cells, entryRow_value listed]
    cases found : entry.values.lookup locale with
    | none => exact (by decide : Text.trim "" = "")
    | some value =>
        obtain ⟨_, _, split, -⟩ := List.lookup_eq_some_iff.mp found
        exact trimmed.values (locale, value) (by simp [split])
  have found := filterMap_lookup_eq fits.values.listed distinct
    fits.values.filled
  rw [← List.zipIdx_map_fst (layout.attributeColumn + 1) layout.locales,
    List.filterMap_map] at found
  rw [← found, rowValues, localeColumns]
  apply List.filterMap_congr
  rintro ⟨locale, column⟩ member
  obtain ⟨after, listed⟩ := List.mk_mem_zipIdx_iff_le_and_getElem?_sub.mp member
  have value := stored _ locale listed
  rw [Nat.add_sub_cancel' after] at value
  simp only [value, Function.comp_apply]

/-- The row written for an entry is read as this entry. -/
theorem entryAt?_of_entryRow {sheet : Sheet} {row : Nat}
    (cells : ∀ column, sheet.cell row column =
      Text.trim ((layout.entryRow entry)[column]?.getD ""))
    (distinct : layout.locales.Nodup) (fits : entry.Fits layout)
    (trimmed : entry.Trimmed) (numbered : entry.row = row + 1) :
    layout.entryAt? sheet row = some entry := by
  have keyCells : ∀ column ≤ layout.attributeColumn,
      sheet.cell row column =
        if column + 1 = entry.depth then entry.key else "" := by
    intro column inColumns
    rw [cells, entryRow_key inColumns]
    split
    · exact trimmed.key
    · exact (by decide : Text.trim "" = "")
  obtain ⟨column, deep⟩ : ∃ column, entry.depth = column + 1 :=
    Nat.exists_eq_add_of_le' fits.depth_pos
  have inColumns : column ≤ layout.attributeColumn := by
    have bound := fits.depth_le
    omega
  have key : sheet.cell row column = entry.key := by
    rw [keyCells column inColumns, if_pos deep.symm]
  have found : layout.keyColumn? sheet row = some column := by
    rw [keyColumn?, List.find?_range_eq_some]
    refine ⟨by simpa [key] using fits.named, by simpa using by omega, ?_⟩
    intro left order
    rw [keyCells left (by omega), if_neg (by omega)]
    rfl
  have values := values_of_entryRow cells distinct fits trimmed
  have isAttribute : (column == layout.attributeColumn) =
      entry.isAttribute := by
    rw [Bool.eq_iff_iff, beq_iff_eq, fits.isAttribute_iff, deep]
    omega
  obtain ⟨_, _, _, _, _⟩ := entry
  simp_all [entryAt?]

theorem filterMap_range'_eq {α : Type} {read : Nat → Option α} {items : List α}
    {start : Nat} (found : ∀ (place : Nat) (item : α),
      items[place]? = some item → read (start + place) = some item) :
    (List.range' start items.length).filterMap read = items := by
  induction items generalizing start with
  | nil => rfl
  | cons item items induction =>
      have first : read start = some item := found 0 item rfl
      rw [List.length_cons, List.range'_succ,
        List.filterMap_cons_some first, induction]
      intro place other listed
      rw [Nat.add_assoc, Nat.add_comm 1]
      exact found (place + 1) other listed

section Write

variable {outline : Outline} {name : String} {header paths : List String}

theorem entryAt?_writeOutline (sound : layout.Sound)
    (written : outline.Written layout) {place : Nat}
    (found : (outline.walk.tail.map (·.entry))[place]? = some entry) :
    layout.entryAt? (layout.writeOutline name header paths outline)
      (2 + place) = some entry := by
  obtain ⟨visited, listed, rfl⟩ :=
    List.mem_map.mp (List.mem_of_getElem? found)
  have numbered := congrArg (·[place]?) written.numbered
  simp only [List.getElem?_map] at numbered found
  obtain ⟨other, there, same⟩ := Option.map_eq_some_iff.mp found
  have inside : place < outline.walk.tail.length :=
    (List.getElem?_eq_some_iff.mp there).1
  rw [there, List.getElem?_range' inside, Option.map_some, same] at numbered
  apply entryAt?_of_entryRow (fun column => cell_writeOutline (by
      simpa using found) column) sound.distinct
    (written.fits.entries visited listed) (written.trimmed visited listed)
  have row := Option.some.inj numbered
  omega

theorem entries_writeOutline (sound : layout.Sound)
    (written : outline.Written layout)
    (described : (layout.writeOutline name header paths outline).layout =
      layout) :
    (layout.writeOutline name header paths outline).entries =
      outline.walk.tail.map (·.entry) := by
  have length : (layout.writeOutline name header paths outline).rows.length -
      2 = (outline.walk.tail.map (·.entry)).length := by
    simp [writeOutline, Sheet.ofRows]
  rw [Sheet.entries, described, length]
  exact filterMap_range'_eq fun place item found =>
    entryAt?_writeOutline sound written found

theorem inLayout_writeOutline (sound : layout.Sound)
    (written : outline.Written layout)
    (headed : (layout.writeOutline name header paths outline).HeaderReads
      layout.attributeColumn layout.locales)
    (pathed : (layout.writeOutline name header paths outline).PathsFit) :
    (layout.writeOutline name header paths outline).InLayout := by
  obtain ⟨marked, column, locales⟩ := Sheet.headerReads_iff.mp headed
  have described : (layout.writeOutline name header paths outline).layout =
      layout := by
    rw [Sheet.layout, column, locales]
  constructor
  · simp [writeOutline, Sheet.ofRows]
  · constructor
    · exact marked
    · rw [column]
      exact Nat.ne_of_gt sound.placed
    · rw [locales]
      exact sound.distinct
    · rw [locales]
      exact sound.named
  · exact pathed
  · intro row low high
    have length : (layout.writeOutline name header paths outline).rows.length =
        (outline.walk.tail.map (·.entry)).length + 2 := by
      simp [writeOutline, Sheet.ofRows]
    have inside : row - 2 < (outline.walk.tail.map (·.entry)).length := by
      omega
    have found : layout.entryAt?
        (layout.writeOutline name header paths outline) (2 + (row - 2)) =
          some (outline.walk.tail.map (·.entry))[row - 2] :=
      entryAt?_writeOutline sound written (List.getElem?_eq_getElem inside)
    rw [Nat.add_sub_cancel' low] at found
    rw [← readRow_eq_orphan_iff (Sheet.layout_describes _), described,
      readRow_of_entryAt? found]
    simp

theorem cell_header (column : Nat) :
    (layout.writeOutline name header paths outline).cell 0 column =
      Text.trim (header[column]?.getD "") := by
  rw [writeOutline, Sheet.cell_ofRows]
  rfl

theorem cell_paths (column : Nat) :
    (layout.writeOutline name header paths outline).cell 1 column =
      Text.trim (paths[column]?.getD "") := by
  rw [writeOutline, Sheet.cell_ofRows]
  rfl

theorem headerReads_writeOutline (sound : layout.Sound) :
    (layout.writeOutline name layout.headerRow paths outline).HeaderReads
      layout.attributeColumn layout.locales := by
  constructor
  · rw [cell_header, headerRow, List.getElem?_append_right (by simp)]
    simp only [List.length_replicate, Nat.sub_self, List.getElem?_cons_zero,
      Option.getD_some]
    decide
  · intro earlier order
    rw [cell_header, headerRow,
      List.getElem?_append_left (by simpa using order)]
    simp only [List.getElem?_replicate, order, if_true, Option.getD_some]
    decide
  · intro blank
    exact (sound.filled "" blank).1 rfl
  · intro place locale listed
    rw [cell_header, headerRow, List.getElem?_append_right (by simp; omega)]
    have there : layout.attributeColumn + 1 + place -
        (List.replicate layout.attributeColumn "").length = place + 1 := by
      simp only [List.length_replicate]
      omega
    rw [there, List.getElem?_cons_succ, listed]
    exact (sound.filled locale (List.mem_of_getElem? listed)).2
  · rw [cell_header, headerRow, List.getElem?_eq_none]
    · decide
    · simp only [List.length_append, List.length_replicate, List.length_cons]
      omega

theorem pathsFit_writeOutline (sound : layout.Sound) :
    (layout.writeOutline name layout.headerRow layout.pathRow
      outline).PathsFit := by
  have reads : (layout.writeOutline name layout.headerRow layout.pathRow
      outline).HeaderReads layout.attributeColumn layout.locales :=
    headerReads_writeOutline sound
  obtain ⟨-, column, locales⟩ := Sheet.headerReads_iff.mp reads
  constructor
  · constructor
    · simp [writeOutline, Sheet.ofRows]
    · rw [cell_paths, pathRow]
      exact (by decide : Text.trim "path" = "path")
  · intro place inside
    rw [locales] at inside
    rw [Sheet.localeCell, column, cell_paths, pathRow, Nat.add_right_comm,
      List.getElem?_cons_succ, List.getElem?_append_right (by simp)]
    simp only [List.length_replicate, Nat.add_sub_cancel_left,
      List.getElem?_map, List.getElem?_eq_getElem inside, Option.map_some,
      Option.getD_some]
    decide

end Write

end Layout

namespace Page

/-- The outlines of pages are those that fit their layout: every page has such
an outline, and every such outline whose rows follow each other is read from
the sheet that is written for it, under any header and path row in order, and
there are such rows. -/
theorem outlines_of_pages :
    (∀ sheet page, parse sheet = .ok page →
      page.root.Fits ⟨sheet.attributeColumn, page.locales⟩) ∧
    ∀ (layout : Layout) (outline : Outline), layout.Sound →
      outline.Written layout →
        (∀ name header paths,
          (layout.writeOutline name header paths outline).HeaderReads
            layout.attributeColumn layout.locales →
          (layout.writeOutline name header paths outline).PathsFit →
            ∃ page,
              parse (layout.writeOutline name header paths outline) =
                  .ok page ∧
                page.name = name ∧ page.locales = layout.locales ∧
                page.root = outline) ∧
        ∃ header paths, ∀ name,
          (layout.writeOutline name header paths outline).HeaderReads
              layout.attributeColumn layout.locales ∧
            (layout.writeOutline name header paths outline).PathsFit := by
  constructor
  · intro sheet page parsed
    have fits := fits_of_parse parsed
    rw [Sheet.layout, ← locales_of_parse parsed] at fits
    exact fits
  · intro layout outline sound written
    refine ⟨?_, layout.headerRow, layout.pathRow, fun name =>
      ⟨Layout.headerReads_writeOutline sound,
        Layout.pathsFit_writeOutline sound⟩⟩
    intro name header paths headed pathed
    obtain ⟨-, column, locales⟩ := Sheet.headerReads_iff.mp headed
    have described : (layout.writeOutline name header paths outline).layout =
        layout := by
      rw [Sheet.layout, column, locales]
    have whole : Outline.ofEntries
        (layout.writeOutline name header paths outline).entries = outline := by
      rw [Layout.entries_writeOutline sound written described, List.map_tail]
      exact (Outline.eq_ofEntries written.fits.rooted
        written.fits.nests).symm
    exact ⟨_, parse_eq_ok_iff.mpr
      ⟨Layout.inLayout_writeOutline sound written headed pathed, rfl⟩,
      rfl, locales, whole⟩

/-- An outline with attributes below the root and below an element, both of
which leave depths out. -/
def gappedOutline : Outline :=
  .node .root
    [.node ⟨"class", true, [("en", "wide")], 3, 3⟩ [],
     .node ⟨"body", false, [], 4, 1⟩
       [.node ⟨"id", true, [("en", "first"), ("de", "erst")], 5, 3⟩ [],
        .node ⟨"p", false, [("de", "ein <b>Wort</b>")], 6, 2⟩ []]]

theorem written_gappedOutline :
    gappedOutline.Written ⟨2, ["en", "de"]⟩ := by
  have walked : gappedOutline.walk = gappedOutline.preorder :=
    Outline.walk_eq_preorder gappedOutline
  constructor
  · constructor
    · rfl
    all_goals
      rw [walked]
      decide
  all_goals
    rw [walked]
    decide

theorem outlines_of_pages_gappedOutline :
    ∃ name header paths page,
      parse (Layout.writeOutline ⟨2, ["en", "de"]⟩ name header paths
        gappedOutline) = .ok page ∧
      page.locales = ["en", "de"] ∧ page.root = gappedOutline ∧
      page.root.Fits ⟨2, ["en", "de"]⟩ := by
  have sound : Layout.Sound ⟨2, ["en", "de"]⟩ :=
    ⟨by decide, by decide, by decide, by decide⟩
  obtain ⟨reads, header, paths, fit⟩ :=
    outlines_of_pages.2 _ _ sound written_gappedOutline
  obtain ⟨headed, pathed⟩ := fit "gapped"
  obtain ⟨page, parsed, -, locales, rooted⟩ :=
    reads "gapped" header paths headed pathed
  have fits := outlines_of_pages.1 _ page parsed
  rw [(Sheet.headerReads_iff.mp headed).2.1, locales] at fits
  exact ⟨"gapped", header, paths, page, parsed, locales, rooted, fits⟩

end Page

end WorkbookSite

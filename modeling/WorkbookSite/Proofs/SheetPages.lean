import WorkbookSite.Proofs.SheetLayout

/-!
# The page of a sheet

A sheet in layout has exactly one page.  `Sheet.page` gives it from the cells of
the sheet: the locales of the header, the paths of the second row, and the
outline of the entries of all further rows.  Statements about pages become
statements about these cells.
-/

namespace WorkbookSite

namespace Layout

variable {layout : Layout} {sheet : Sheet}

/-- The entry of a row that has a key. -/
def entryAt? (layout : Layout) (sheet : Sheet) (row : Nat) : Option Entry :=
  (layout.keyColumn? sheet row).map fun column =>
    { key := sheet.cell row column
      isAttribute := column == layout.attributeColumn
      values := layout.rowValues sheet row
      row := row + 1
      depth := column + 1 }

theorem readRow_of_entryAt? {row : Nat} {entry : Entry}
    (found : layout.entryAt? sheet row = some entry) :
    layout.readRow sheet row = .entry entry := by
  obtain ⟨column, key, rfl⟩ := Option.map_eq_some_iff.mp found
  simp [readRow, key]

theorem readRow_of_entryAt?_eq_none {row : Nat}
    (keyless : layout.entryAt? sheet row = none)
    (keyed : layout.readRow sheet row ≠ .orphan) :
    layout.readRow sheet row = .blank := by
  have noKey : layout.keyColumn? sheet row = none :=
    Option.map_eq_none_iff.mp keyless
  simp only [readRow, noKey] at keyed ⊢
  split
  · rfl
  · rename_i valued
    simp [valued] at keyed

/-- Rows among which is no orphan are read to the entries that they have. -/
theorem readRows_eq {rows : List Nat}
    (keyed : ∀ row ∈ rows, layout.readRow sheet row ≠ .orphan) :
    layout.readRows sheet rows =
      (rows.filterMap (layout.entryAt? sheet), none) := by
  induction rows with
  | nil => rfl
  | cons row rows induction =>
      have later := induction fun other member =>
        keyed other (List.mem_cons_of_mem _ member)
      cases found : layout.entryAt? sheet row with
      | none =>
          have blank := readRow_of_entryAt?_eq_none found
            (keyed row List.mem_cons_self)
          rw [readRows, blank, List.filterMap_cons_none found]
          exact later
      | some entry =>
          rw [readRows, readRow_of_entryAt? found,
            List.filterMap_cons_some found]
          simp only [later]

end Layout

namespace Sheet

variable {sheet : Sheet}

/-- The columns that the header of the sheet names. -/
def layout (sheet : Sheet) : Layout :=
  ⟨sheet.attributeColumn, sheet.localeRun⟩

theorem layout_describes (sheet : Sheet) : sheet.layout.Describes sheet :=
  ⟨rfl, rfl⟩

theorem eq_layout_of_describes {layout : Layout}
    (describes : layout.Describes sheet) : layout = sheet.layout := by
  cases layout
  obtain ⟨rfl, rfl⟩ := describes
  rfl

/-- The entries of the rows below the path row, from top to bottom. -/
def entries (sheet : Sheet) : List Entry :=
  (List.range' 2 (sheet.rows.length - 2)).filterMap
    (sheet.layout.entryAt? sheet)

theorem isSome_entryAt? (sheet : Sheet) (row : Nat) :
    (sheet.layout.entryAt? sheet row).isSome = sheet.hasKey row := by
  rw [Layout.entryAt?, Option.isSome_map, Layout.keyColumn?, hasKey,
    Bool.eq_iff_iff, List.find?_isSome, List.any_eq_true]
  rfl

/-- The entries are those of the rows that have a key. -/
theorem entryAt?_entries (sheet : Sheet) :
    List.Forall₂ (fun row entry => sheet.layout.entryAt? sheet row = some entry)
      sheet.keyedRows sheet.entries := by
  rw [keyedRows, entries]
  generalize List.range' 2 (sheet.rows.length - 2) = rows
  induction rows with
  | nil => exact .nil
  | cons row rows induction =>
      have keyed := sheet.isSome_entryAt? row
      cases found : sheet.layout.entryAt? sheet row with
      | none =>
          rw [found, Option.isSome_none] at keyed
          rwa [List.filter_cons_of_neg (by simp [← keyed]),
            List.filterMap_cons_none found]
      | some entry =>
          rw [found, Option.isSome_some] at keyed
          rw [List.filter_cons_of_pos keyed.symm,
            List.filterMap_cons_some found]
          exact .cons found induction

theorem standsIn_entries (sheet : Sheet) :
    List.Forall₂ (Entry.StandsIn sheet) sheet.keyedRows sheet.entries :=
  sheet.entryAt?_entries.imp fun _ _ found =>
    Layout.standsIn_of_readRow rfl (Layout.readRow_of_entryAt? found)

/-- The page that the cells of a sheet in layout describe. -/
def page (sheet : Sheet) : Page where
  name := sheet.name
  locales := sheet.localeRun
  paths := sheet.layout.localeColumns.map fun place =>
    (place.1, sheet.cell 1 place.2)
  root := .ofEntries sheet.entries

theorem InLayout.readEntries_eq (inLayout : sheet.InLayout) :
    sheet.layout.readEntries sheet = (sheet.entries, none) := by
  rw [Layout.readEntries, List.range_eq_range', List.drop_range']
  apply Layout.readRows_eq
  intro row member
  rw [List.mem_range'_1] at member
  rw [Ne, Layout.readRow_eq_orphan_iff sheet.layout_describes]
  exact inLayout.keyed row (by omega) (by omega)

end Sheet

namespace Page

variable {sheet : Sheet} {page : Page}

theorem eq_page_of_parse (parsed : parse sheet = .ok page) :
    page = sheet.page := by
  have inLayout := inLayout_of_parse parsed
  obtain ⟨layout, paths, entries, headed, found, read, rfl⟩ := of_parse parsed
  obtain ⟨describes, -⟩ := Layout.ofHeader_eq_ok headed
  obtain ⟨rfl, -⟩ := Layout.readPaths_eq_ok describes found
  obtain rfl := Sheet.eq_layout_of_describes describes
  rw [inLayout.readEntries_eq] at read
  obtain ⟨rfl, -⟩ := Prod.mk.inj read
  rfl

theorem root_of_parse (parsed : parse sheet = .ok page) :
    page.root = .ofEntries sheet.entries := by
  rw [eq_page_of_parse parsed]
  rfl

/-- Reading a sheet gives its page exactly if the sheet is in layout. -/
theorem parse_eq_ok_iff :
    parse sheet = .ok page ↔ sheet.InLayout ∧ page = sheet.page := by
  constructor
  · intro parsed
    exact ⟨inLayout_of_parse parsed, eq_page_of_parse parsed⟩
  · rintro ⟨inLayout, rfl⟩
    cases parsed : parse sheet with
    | ok page => rw [eq_page_of_parse parsed]
    | error error =>
        obtain ⟨-, first⟩ := firstFault_of_parse parsed
        exact absurd first.present (inLayout.no_fault error.fault)

end Page

end WorkbookSite

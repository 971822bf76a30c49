import WorkbookSite.Proofs.HeaderCells

/-!
# Sheets with the same cells

A sheet is read as a page by its cells alone: how long its rows are, and how
many blank rows it ends with, has no influence.  So two sheets of one name with
the same cells are the same page with the same warnings, or have the same fault.
-/

namespace WorkbookSite

namespace Sheet

/-- The sheets have one name and the same cells, and both have rows or none
has. -/
structure SameCells (sheet other : Sheet) : Prop where
  name_eq : sheet.name = other.name
  rows_eq_nil_iff : sheet.rows = [] ↔ other.rows = []
  cell_eq : ∀ row column, sheet.cell row column = other.cell row column

theorem cell_of_length_le {sheet : Sheet} {row : Nat}
    (below : sheet.rows.length ≤ row) (column : Nat) :
    sheet.cell row column = "" := by
  rw [cell, List.getElem?_eq_none below]
  rfl

theorem HeaderReads.congr {sheet other : Sheet} {column : Nat}
    {locales : List String} (reads : sheet.HeaderReads column locales)
    (same : ∀ column, sheet.cell 0 column = other.cell 0 column) :
    other.HeaderReads column locales := by
  obtain ⟨marked, first, named, listed, ends⟩ := reads
  simp only [same] at marked first listed ends
  exact ⟨marked, first, named, listed, ends⟩

end Sheet

namespace Layout

variable {layout : Layout} {sheet other : Sheet}

/-- The layout of a header that has its first attribute marker in the given
column, followed by the given cells. -/
def ofMarker (column : Nat) (cells : List String) :
    Except LayoutFault Layout :=
  if column = 0 then .error .misplacedAttributeColumn
  else do
    let locales ← readLocales [] cells
    if locales.isEmpty then .error .noLocales
    else .ok ⟨column, locales⟩

theorem readLocales_takeWhile (seen cells : List String) :
    readLocales seen (cells.takeWhile (· != "")) = readLocales seen cells := by
  induction cells generalizing seen with
  | nil => rfl
  | cons cell cells induction =>
      by_cases blank : cell = ""
      · simp [blank, readLocales]
      · rw [List.takeWhile_cons_of_pos (by simpa using blank), readLocales,
          readLocales, if_neg blank, if_neg blank, induction]

theorem ofHeader_eq_ofMarker
    (marked : "attribute" ∈ sheet.rows.headD []) :
    ofHeader (sheet.rows.headD []) =
      ofMarker sheet.attributeColumn sheet.localeRun := by
  cases found : (sheet.rows.headD []).idxOf? "attribute" with
  | none => exact absurd marked (List.idxOf?_eq_none_iff.mp found)
  | some column =>
      obtain ⟨-, same⟩ := attributeColumn_of_idxOf? found
      rw [ofHeader, found, ofMarker, Sheet.localeRun, same,
        readLocales_takeWhile]
      cases column with
      | zero => rfl
      | succ column => rfl

theorem ofHeader_of_notMem {header : List String}
    (unmarked : "attribute" ∉ header) :
    ofHeader header = .error .missingAttributeColumn := by
  rw [ofHeader, List.idxOf?_eq_none_iff.mpr unmarked]

/-- A header is read by its cells. -/
theorem ofHeader_congr
    (same : ∀ column, sheet.cell 0 column = other.cell 0 column) :
    ofHeader (sheet.rows.headD []) = ofHeader (other.rows.headD []) := by
  by_cases marked : "attribute" ∈ sheet.rows.headD []
  · have reads := Sheet.headerReads_iff.mpr ⟨marked, rfl, rfl⟩
    obtain ⟨otherMarked, column, locales⟩ :=
      Sheet.headerReads_iff.mp (reads.congr same)
    rw [ofHeader_eq_ofMarker marked, ofHeader_eq_ofMarker otherMarked, column,
      locales]
  · have otherUnmarked : "attribute" ∉ other.rows.headD [] := by
      intro otherMarked
      have reads := Sheet.headerReads_iff.mpr ⟨otherMarked, rfl, rfl⟩
      have back := reads.congr fun column => (same column).symm
      exact marked (Sheet.headerReads_iff.mp back).1
    rw [ofHeader_of_notMem marked, ofHeader_of_notMem otherUnmarked]

/-- A sheet without a second row has no path marker in it either. -/
theorem readPaths_eq :
    layout.readPaths sheet =
      if sheet.cell 1 0 ≠ "path" then .error .missingPathRow
      else layout.localeColumns.mapM (readPath sheet) := by
  by_cases short : sheet.rows.length < 2
  · have blank := Sheet.cell_of_length_le (Nat.le_of_lt_succ short) 0
    rw [readPaths, if_pos (.inl short), if_pos (by simp [blank])]
  · by_cases marked : sheet.cell 1 0 = "path"
    · rw [readPaths, if_neg (by simp [marked, short]), if_neg (by simp [marked])]
      rfl
    · rw [readPaths, if_pos (.inr marked), if_pos marked]

theorem readPaths_congr
    (same : ∀ column, sheet.cell 1 column = other.cell 1 column) :
    layout.readPaths sheet = layout.readPaths other := by
  have each : readPath sheet = readPath other := by
    funext place
    rw [readPath, readPath, same]
  rw [readPaths_eq, readPaths_eq, same, each]

theorem readRow_congr {row : Nat}
    (same : ∀ column, sheet.cell row column = other.cell row column) :
    layout.readRow sheet row = layout.readRow other row := by
  simp only [readRow, keyColumn?, rowValues, same]

theorem mem_localeColumns {locale : String} {column : Nat}
    (member : (locale, column) ∈ layout.localeColumns) :
    ∃ place < layout.locales.length,
      column = layout.attributeColumn + 1 + place := by
  obtain ⟨after, found⟩ :=
    List.mk_mem_zipIdx_iff_le_and_getElem?_sub.mp member
  exact ⟨_, (List.getElem?_eq_some_iff.mp found).1,
    (Nat.add_sub_cancel' after).symm⟩

/-- A row with nothing in the columns of the layout is blank. -/
theorem readRow_eq_blank {row : Nat}
    (blank : ∀ column < layout.attributeColumn + 1 + layout.locales.length,
      sheet.cell row column = "") :
    layout.readRow sheet row = .blank := by
  have noKey : layout.keyColumn? sheet row = none := by
    apply List.find?_eq_none.mpr
    intro column member
    have bound := List.mem_range.mp member
    simp [blank column (by omega)]
  have noValues : layout.rowValues sheet row = [] := by
    apply List.filterMap_eq_nil_iff.mpr
    rintro ⟨locale, column⟩ member
    obtain ⟨place, inside, rfl⟩ := mem_localeColumns member
    simp [blank _ (Nat.add_lt_add_left inside _)]
  simp [readRow, noKey, noValues]

theorem readRow_of_length_le {row : Nat} (below : sheet.rows.length ≤ row) :
    layout.readRow sheet row = .blank :=
  readRow_eq_blank fun column _ => Sheet.cell_of_length_le below column

theorem readRows_congr {rows : List Nat}
    (same : ∀ row ∈ rows, layout.readRow sheet row = layout.readRow other row) :
    layout.readRows sheet rows = layout.readRows other rows := by
  induction rows with
  | nil => rfl
  | cons row rows induction =>
      obtain ⟨here, later⟩ := List.forall_mem_cons.mp same
      rw [readRows, readRows, here, induction later]

theorem readRows_of_blank {rows : List Nat}
    (blank : ∀ row ∈ rows, layout.readRow sheet row = .blank) :
    layout.readRows sheet rows = ([], none) := by
  induction rows with
  | nil => rfl
  | cons row rows induction =>
      obtain ⟨here, later⟩ := List.forall_mem_cons.mp blank
      rw [readRows, here]
      exact induction later

theorem readRows_append_blank {rows later : List Nat}
    (blank : ∀ row ∈ later, layout.readRow sheet row = .blank) :
    layout.readRows sheet (rows ++ later) = layout.readRows sheet rows := by
  induction rows with
  | nil => exact readRows_of_blank blank
  | cons row rows induction =>
      rw [List.cons_append, readRows, readRows, induction]

/-- Reading may go on below the last row. -/
theorem readEntries_eq_of_length_le {count : Nat}
    (bound : sheet.rows.length ≤ count + 2) :
    layout.readEntries sheet =
      layout.readRows sheet (List.range' 2 count) := by
  have split : List.range' 2 count =
      List.range' 2 (sheet.rows.length - 2) ++
        List.range' (2 + (sheet.rows.length - 2))
          (count - (sheet.rows.length - 2)) := by
    rw [List.range'_append_1]
    congr 1
    omega
  have blank : ∀ row ∈ List.range' (2 + (sheet.rows.length - 2))
      (count - (sheet.rows.length - 2)),
        layout.readRow sheet row = .blank := by
    intro row listed
    apply readRow_of_length_le
    rw [List.mem_range'_1] at listed
    omega
  rw [readEntries, List.range_eq_range', List.drop_range', split,
    readRows_append_blank blank]

/-- Sheets whose rows are read alike have the same entries, however many rows
they have. -/
theorem readEntries_eq_of_readRow_eq
    (same : ∀ row, 2 ≤ row →
      layout.readRow sheet row = layout.readRow other row) :
    layout.readEntries sheet = layout.readEntries other := by
  rw [readEntries_eq_of_length_le
      (Nat.le_trans (Nat.le_max_left _ other.rows.length)
        (Nat.le_add_right _ 2)),
    readEntries_eq_of_length_le
      (Nat.le_trans (Nat.le_max_right sheet.rows.length _)
        (Nat.le_add_right _ 2))]
  exact readRows_congr fun row member =>
    same row (List.mem_range'_1.mp member).1

theorem readEntries_congr
    (same : ∀ row column, sheet.cell row column = other.cell row column) :
    layout.readEntries sheet = layout.readEntries other :=
  readEntries_eq_of_readRow_eq fun row _ => readRow_congr (same row)

end Layout

namespace Page

variable {sheet other : Sheet}

theorem parse_of_rows_ne_nil (filled : sheet.rows ≠ []) :
    parse sheet =
      (do
        let layout ← Layout.ofHeader (sheet.rows.headD [])
        let paths ← layout.readPaths sheet
        match layout.readEntries sheet with
        | (_, some row) => .error (.orphanValues row)
        | (entries, none) =>
            .ok ⟨sheet.name, layout.locales, paths, .ofEntries entries⟩ :
        Except LayoutFault Page).mapError (⟨sheet.name, ·⟩) := by
  obtain ⟨header, rows, spelled⟩ := List.exists_cons_of_ne_nil filled
  rw [parse, spelled]
  rfl

/-- Sheets of one name whose header, path row and entries are read alike are the
same page with the same warnings, or fail alike. -/
theorem parse_eq_of_readings_eq (named : sheet.name = other.name)
    (filled : sheet.rows = [] ↔ other.rows = [])
    (headers : Layout.ofHeader (sheet.rows.headD []) =
      Layout.ofHeader (other.rows.headD []))
    (below : ∀ layout, Layout.ofHeader (sheet.rows.headD []) = .ok layout →
      layout.readPaths sheet = layout.readPaths other ∧
        layout.readEntries sheet = layout.readEntries other) :
    parse sheet = parse other ∧ depthGaps sheet = depthGaps other := by
  constructor
  · by_cases empty : sheet.rows = []
    · rw [parse, parse, empty, filled.mp empty, named]
    · rw [parse_of_rows_ne_nil empty, parse_of_rows_ne_nil
        (filled.not.mp empty), named, ← headers]
      cases headed : Layout.ofHeader (sheet.rows.headD []) with
      | error fault => rfl
      | ok layout =>
          obtain ⟨paths, entries⟩ := below layout headed
          simp only [bind, Except.bind, paths, entries]
  · rw [depthGaps, depthGaps, named, ← headers]
    cases headed : Layout.ofHeader (sheet.rows.headD []) with
    | error fault => rfl
    | ok layout =>
        obtain ⟨paths, entries⟩ := below layout headed
        simp only [paths, entries]

theorem parse_congr_of_sameCells (same : sheet.SameCells other) :
    parse sheet = parse other ∧ depthGaps sheet = depthGaps other :=
  parse_eq_of_readings_eq same.name_eq same.rows_eq_nil_iff
    (Layout.ofHeader_congr (same.cell_eq 0))
    fun _ _ => ⟨Layout.readPaths_congr (same.cell_eq 1),
      Layout.readEntries_congr same.cell_eq⟩

/-- Sheets with the same cells are read as the same page, or fail alike. -/
theorem parse_congr (same : sheet.SameCells other) :
    parse sheet = parse other :=
  (parse_congr_of_sameCells same).1

theorem depthGaps_congr (same : sheet.SameCells other) :
    depthGaps sheet = depthGaps other :=
  (parse_congr_of_sameCells same).2

end Page

end WorkbookSite

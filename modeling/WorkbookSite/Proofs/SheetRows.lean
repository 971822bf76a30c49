import Mathlib.Data.List.Forall2
import WorkbookSite.Page
import WorkbookSite.Proofs.Outcomes

/-!
# Entries of the rows of a sheet

A page that is read from a sheet has one entry for each row below the path row
that has a key.  `Sheet.keyedRows` lists these rows, and `Entry.StandsAt` says
which entry a row has: both look at the cells of the sheet only.
-/

namespace WorkbookSite

namespace Sheet

/-- The column of the attribute marker in the header row. -/
def attributeColumn (sheet : Sheet) : Nat :=
  (sheet.rows.headD []).idxOf "attribute"

/-- Whether a row has a cell up to the attribute column that is not blank. -/
def hasKey (sheet : Sheet) (row : Nat) : Bool :=
  (List.range (sheet.attributeColumn + 1)).any (sheet.cell row · != "")

/-- The rows below the path row that have a key, from top to bottom. -/
def keyedRows (sheet : Sheet) : List Nat :=
  (List.range' 2 (sheet.rows.length - 2)).filter sheet.hasKey

theorem keyedRows_sorted (sheet : Sheet) :
    sheet.keyedRows.Pairwise (· < ·) :=
  List.Pairwise.filter _ (List.pairwise_lt_range' 1)

end Sheet

/-- The entry stands in the given row of a sheet, and its key in the given
column. -/
structure Entry.StandsAt (entry : Entry) (sheet : Sheet) (row column : Nat) :
    Prop where
  inKeyColumns : column ≤ sheet.attributeColumn
  filled : sheet.cell row column ≠ ""
  blankBefore : ∀ left < column, sheet.cell row left = ""
  key_eq : entry.key = sheet.cell row column
  depth_eq : entry.depth = column + 1
  row_eq : entry.row = row + 1
  isAttribute_iff : entry.isAttribute = true ↔ column = sheet.attributeColumn

/-- The entry stands in the given row of a sheet. -/
def Entry.StandsIn (sheet : Sheet) (row : Nat) (entry : Entry) : Prop :=
  ∃ column, entry.StandsAt sheet row column

namespace Layout

/-- The header gives the column of its first attribute marker, which is not the
first column. -/
theorem attributeColumn_of_ofHeader {header : List String} {layout : Layout}
    (read : ofHeader header = .ok layout) :
    layout.attributeColumn = header.idxOf "attribute" ∧
      0 < layout.attributeColumn := by
  unfold ofHeader at read
  rw [List.idxOf_eq_getD_idxOf?]
  cases marker : header.idxOf? "attribute" with
  | none => simp [marker] at read
  | some column =>
      cases column with
      | zero => simp [marker] at read
      | succ column =>
          simp only [marker] at read
          obtain ⟨locales, -, checked⟩ := Outcome.bind_eq_ok.mp read
          split at checked
          · cases checked
          · cases checked
            exact ⟨rfl, Nat.succ_pos column⟩

theorem standsIn_of_readRow {layout : Layout} {sheet : Sheet}
    (columns : layout.attributeColumn = sheet.attributeColumn)
    {row : Nat} {entry : Entry}
    (read : layout.readRow sheet row = .entry entry) :
    entry.StandsIn sheet row := by
  unfold readRow at read
  simp only at read
  split at read
  · rename_i column found
    obtain ⟨filled, inRange, before⟩ := List.find?_range_eq_some.mp found
    have inColumns : column ≤ layout.attributeColumn :=
      Nat.le_of_lt_succ (List.mem_range.mp inRange)
    cases read
    exact ⟨column, {
      inKeyColumns := columns ▸ inColumns
      filled := by simpa using filled
      blankBefore := fun left order => by simpa using before left order
      key_eq := rfl
      depth_eq := rfl
      row_eq := rfl
      isAttribute_iff := by simp [columns] }⟩
  · split at read <;> cases read

theorem hasKey_of_readRow {layout : Layout} {sheet : Sheet}
    (columns : layout.attributeColumn = sheet.attributeColumn)
    {row : Nat} {entry : Entry}
    (read : layout.readRow sheet row = .entry entry) :
    sheet.hasKey row = true := by
  obtain ⟨column, stands⟩ := standsIn_of_readRow columns read
  apply List.any_eq_true.mpr
  refine ⟨column, List.mem_range.mpr ?_, by simpa using stands.filled⟩
  exact Nat.lt_succ_of_le stands.inKeyColumns

theorem hasKey_of_blank {layout : Layout} {sheet : Sheet}
    (columns : layout.attributeColumn = sheet.attributeColumn)
    {row : Nat} (read : layout.readRow sheet row = .blank) :
    sheet.hasKey row = false := by
  unfold readRow at read
  simp only at read
  split at read
  · cases read
  · rename_i noKey
    rw [keyColumn?, columns] at noKey
    have blank := List.find?_eq_none.mp noKey
    simpa [Sheet.hasKey] using blank

/-- Reading rows without an orphan gives one entry for each row with a key, in
the order of the rows. -/
theorem forall₂_standsIn_of_readRows {layout : Layout} {sheet : Sheet}
    (columns : layout.attributeColumn = sheet.attributeColumn)
    {rows : List Nat} {entries : List Entry}
    (read : layout.readRows sheet rows = (entries, none)) :
    List.Forall₂ (Entry.StandsIn sheet) (rows.filter sheet.hasKey)
      entries := by
  induction rows generalizing entries with
  | nil =>
      cases read
      exact .nil
  | cons row rows induction =>
      rw [readRows] at read
      split at read
      · rename_i blank
        rw [List.filter_cons_of_neg (by simp [hasKey_of_blank columns blank])]
        exact induction read
      · cases read
      · rename_i entry found
        rw [List.filter_cons_of_pos (hasKey_of_readRow columns found)]
        obtain ⟨rfl, noOrphan⟩ := Prod.mk.inj read
        exact .cons (standsIn_of_readRow columns found)
          (induction (Prod.ext rfl noOrphan))

end Layout

namespace Page

theorem of_parse {sheet : Sheet} {page : Page}
    (parsed : parse sheet = .ok page) :
    ∃ layout paths entries,
      Layout.ofHeader (sheet.rows.headD []) = .ok layout ∧
        layout.readPaths sheet = .ok paths ∧
        layout.readEntries sheet = (entries, none) ∧
        page = ⟨sheet.name, layout.locales, paths, .ofEntries entries⟩ := by
  have reading := Outcome.mapError_eq_ok.mp parsed
  split at reading
  · cases reading
  · rename_i header rows rowsEq
    obtain ⟨layout, headed, reading⟩ := Outcome.bind_eq_ok.mp reading
    obtain ⟨paths, found, reading⟩ := Outcome.bind_eq_ok.mp reading
    split at reading
    · cases reading
    · rename_i entries read
      cases reading
      exact ⟨layout, paths, entries, by simpa [rowsEq] using headed, found,
        read, rfl⟩

theorem entries_of_parse {sheet : Sheet} {page : Page}
    (parsed : parse sheet = .ok page) :
    ∃ entries, page.root = .ofEntries entries ∧
      List.Forall₂ (Entry.StandsIn sheet) sheet.keyedRows entries := by
  obtain ⟨layout, paths, entries, headed, -, read, rfl⟩ := of_parse parsed
  have columns : layout.attributeColumn = sheet.attributeColumn :=
    (Layout.attributeColumn_of_ofHeader headed).1
  refine ⟨entries, rfl, ?_⟩
  have standing := Layout.forall₂_standsIn_of_readRows columns read
  rwa [List.range_eq_range', List.drop_range'] at standing

end Page

theorem Entry.exists_row_of_mem {sheet : Sheet} {rows : List Nat}
    {entries : List Entry}
    (standing : List.Forall₂ (Entry.StandsIn sheet) rows entries)
    {entry : Entry} (member : entry ∈ entries) :
    ∃ row ∈ rows, ∃ column, entry.StandsAt sheet row column := by
  induction standing with
  | nil => cases member
  | @cons row first rows others stands standing induction =>
      rcases List.mem_cons.mp member with rfl | later
      · exact ⟨row, List.mem_cons_self, stands⟩
      · obtain ⟨below, inRows, found⟩ := induction later
        exact ⟨below, List.mem_cons_of_mem _ inRows, found⟩

theorem Entry.sorted_of_standsIn {sheet : Sheet} {rows : List Nat}
    {entries : List Entry} (sorted : rows.Pairwise (· < ·))
    (standing : List.Forall₂ (Entry.StandsIn sheet) rows entries) :
    entries.Pairwise (·.row < ·.row) := by
  induction standing with
  | nil => exact .nil
  | @cons row entry rows entries stands standing induction =>
      obtain ⟨above, sorted⟩ := List.pairwise_cons.mp sorted
      refine List.pairwise_cons.mpr ⟨?_, induction sorted⟩
      intro later member
      obtain ⟨laterRow, inRows, column, laterStands⟩ :=
        Entry.exists_row_of_mem standing member
      obtain ⟨_, firstStands⟩ := stands
      have order := above laterRow inRows
      rw [firstStands.row_eq, laterStands.row_eq]
      omega

end WorkbookSite

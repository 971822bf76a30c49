import Mathlib.Data.List.DropRight
import Mathlib.Data.List.Induction
import Mathlib.Data.Nat.Find
import WorkbookSite.Proofs.SameCells
import WorkbookSite.Workbook

/-!
# Used ranges

A worksheet is read from its used range, the smallest rectangle around its
filled cells, which is put back where it stands on the grid.  What is left out
are blank rows and columns only.  So a workbook is read as the same pages as the
rows that were written to it.
-/

namespace WorkbookSite

/-- A list without its last items, by the places of the items that remain. -/
theorem length_rdropWhile_le_iff {α : Type} {dropped : α → Bool}
    {items : List α} {count : Nat} :
    (items.rdropWhile dropped).length ≤ count ↔
      ∀ place item, count ≤ place → items[place]? = some item →
        dropped item = true := by
  induction items using List.reverseRecOn with
  | nil => simp
  | append_singleton items last induction =>
      cases ends : dropped last with
      | true =>
          rw [List.rdropWhile_concat_pos _ _ _ ends, induction]
          constructor
          · intro each place item bound found
            rw [List.getElem?_append] at found
            split at found
            · exact each place item bound found
            · obtain rfl := List.mem_singleton.mp (List.mem_of_getElem? found)
              exact ends
          · intro each place item bound found
            have inside := (List.getElem?_eq_some_iff.mp found).1
            apply each place item bound
            rw [List.getElem?_append_left inside, found]
      | false =>
          rw [List.rdropWhile_concat_neg _ _ _ (by simp [ends]),
            List.length_append, List.length_singleton]
          constructor
          · intro bound place item beyond found
            have inside := (List.getElem?_eq_some_iff.mp found).1
            rw [List.length_append, List.length_singleton] at inside
            omega
          · intro each
            by_contra short
            have kept := each items.length last (by omega) (by simp)
            rw [ends] at kept
            cases kept

theorem Cell.display_of_not_isFilled {cell : Cell}
    (blank : cell.isFilled = false) : cell.display = "" := by
  cases cell with
  | empty => rfl
  | text content =>
      obtain rfl : content = "" := by simpa [isFilled] using blank
      decide
  | number value => cases blank
  | truth value => cases blank

namespace Worksheet

/-- The cell at a place; an empty one outside the rows. -/
def cell (worksheet : Worksheet) (row column : Nat) : Cell :=
  ((worksheet.rows[row]?).bind (·[column]?)).getD .empty

/-- The cell at a place has something in it. -/
def IsFilledAt (worksheet : Worksheet) (row column : Nat) : Prop :=
  (worksheet.cell row column).isFilled = true

variable {worksheet : Worksheet}

theorem filledWidth_le_iff {row : List Cell} {width : Nat} :
    filledWidth row ≤ width ↔
      ∀ column, width ≤ column →
        (row[column]?.getD .empty).isFilled = false := by
  have dropped : filledWidth row =
      (row.rdropWhile (!·.isFilled)).length := by
    rw [filledWidth, List.rdropWhile, List.length_reverse]
  rw [dropped, length_rdropWhile_le_iff]
  constructor
  · intro each column bound
    cases found : row[column]? with
    | none => rfl
    | some cell => simpa using each column cell bound found
  · intro each column cell bound found
    simpa [found] using each column bound

theorem usedRows_eq : worksheet.usedRows =
    worksheet.rows.rdropWhile (filledWidth · == 0) := rfl

theorem isFilledAt_of_getElem? {row : Nat} {cells : List Cell}
    (found : worksheet.rows[row]? = some cells) (column : Nat) :
    worksheet.IsFilledAt row column ↔
      (cells[column]?.getD .empty).isFilled = true := by
  rw [IsFilledAt, cell, found, Option.bind_some]

theorem filledWidth_eq_zero_iff {row : Nat} {cells : List Cell}
    (found : worksheet.rows[row]? = some cells) :
    filledWidth cells = 0 ↔ ∀ column, ¬ worksheet.IsFilledAt row column := by
  simp only [← Nat.le_zero_eq, filledWidth_le_iff,
    isFilledAt_of_getElem? found, Nat.zero_le, forall_const,
    Bool.not_eq_true]

theorem not_isFilledAt_of_none {row : Nat}
    (outside : worksheet.rows[row]? = none) (column : Nat) :
    ¬ worksheet.IsFilledAt row column := by
  rw [IsFilledAt, cell, outside]
  exact Bool.false_ne_true

/-- Below the rows that are used there is no filled cell. -/
theorem length_usedRows_le_iff {count : Nat} :
    worksheet.usedRows.length ≤ count ↔
      ∀ row column, count ≤ row → ¬ worksheet.IsFilledAt row column := by
  rw [usedRows_eq, length_rdropWhile_le_iff]
  constructor
  · intro each row column bound
    cases found : worksheet.rows[row]? with
    | none => exact not_isFilledAt_of_none found column
    | some cells =>
        have blank := eq_of_beq (each row cells bound found)
        exact (filledWidth_eq_zero_iff found).mp blank column
  · intro each row cells bound found
    rw [beq_iff_eq, filledWidth_eq_zero_iff found]
    exact fun column => each row column bound

theorem foldl_max_le_iff {widths : List Nat} {start bound : Nat} :
    widths.foldl max start ≤ bound ↔
      start ≤ bound ∧ ∀ width ∈ widths, width ≤ bound := by
  induction widths generalizing start with
  | nil => simp
  | cons width widths induction =>
      rw [List.foldl_cons, induction, Nat.max_le, List.forall_mem_cons,
        and_assoc]

/-- Right of the columns that are used there is no filled cell. -/
theorem usedWidth_le_iff {count : Nat} :
    worksheet.usedWidth ≤ count ↔
      ∀ row column, count ≤ column → ¬ worksheet.IsFilledAt row column := by
  rw [usedWidth, foldl_max_le_iff, List.forall_mem_map,
    and_iff_right (Nat.zero_le count)]
  simp only [filledWidth_le_iff]
  constructor
  · intro each row column bound
    cases found : worksheet.rows[row]? with
    | none => exact not_isFilledAt_of_none found column
    | some cells =>
        rw [isFilledAt_of_getElem? found, Bool.not_eq_true]
        exact each cells (List.mem_of_getElem? found) column bound
  · intro each cells listed column bound
    obtain ⟨row, found⟩ := List.getElem?_of_mem listed
    have blank := each row column bound
    rwa [isFilledAt_of_getElem? found, Bool.not_eq_true] at blank

/-- Number of blank rows above the used range. -/
def usedTop (worksheet : Worksheet) : Nat :=
  (worksheet.usedRows.takeWhile (filledWidth · == 0)).length

theorem drop_usedTop (worksheet : Worksheet) :
    worksheet.usedRows.drop worksheet.usedTop =
      worksheet.usedRows.dropWhile (filledWidth · == 0) := by
  have split := List.takeWhile_append_dropWhile
    (p := fun row => filledWidth row == 0) (l := worksheet.usedRows)
  conv_lhs => rw [← split, usedTop]
  exact List.drop_left

theorem rows_read (worksheet : Worksheet) :
    worksheet.read.rows =
      List.replicate worksheet.usedTop [] ++
        (worksheet.usedRows.drop worksheet.usedTop).map
          (displayRow worksheet.usedWidth) := by
  rw [drop_usedTop, usedTop, ← List.map_const']
  rfl

theorem getElem?_of_usedRows {row : Nat} {cells : List Cell}
    (found : worksheet.usedRows[row]? = some cells) :
    worksheet.rows[row]? = some cells := by
  obtain ⟨others, whole⟩ :=
    List.rdropWhile_prefix (filledWidth · == 0) (l := worksheet.rows)
  rw [← usedRows_eq] at whole
  rw [← whole, List.getElem?_append_left (List.getElem?_eq_some_iff.mp found).1,
    found]

theorem not_isFilledAt_of_lt_usedTop {row : Nat}
    (above : row < worksheet.usedTop) (column : Nat) :
    ¬ worksheet.IsFilledAt row column := by
  have inUsed : row < worksheet.usedRows.length :=
    Nat.lt_of_lt_of_le above (List.takeWhile_prefix _).length_le
  have found := getElem?_of_usedRows (List.getElem?_eq_getElem inUsed)
  have blank : filledWidth worksheet.usedRows[row] = 0 := by
    have same := (List.takeWhile_prefix (filledWidth · == 0)).getElem above
    have passed := List.mem_takeWhile_imp (List.getElem_mem above)
    rw [same] at passed
    exact eq_of_beq passed
  exact (filledWidth_eq_zero_iff found).mp blank column

/-- The first row that is not blank has a filled cell. -/
theorem exists_isFilledAt_usedTop
    (filled : ∃ row column, worksheet.IsFilledAt row column) :
    ∃ column, worksheet.IsFilledAt worksheet.usedTop column := by
  by_contra blank
  obtain ⟨row, column, here⟩ := filled
  have kept : worksheet.usedRows.dropWhile (filledWidth · == 0) ≠ [] := by
    intro none
    have short := congrArg List.length (worksheet.drop_usedTop.trans none)
    rw [List.length_drop, List.length_nil] at short
    by_cases above : row < worksheet.usedTop
    · exact not_isFilledAt_of_lt_usedTop above column here
    · have below : worksheet.usedRows.length ≤ row := by omega
      exact length_usedRows_le_iff.mp below row column (Nat.le_refl row)
        here
  have found : worksheet.usedRows[worksheet.usedTop]? =
      some ((worksheet.usedRows.dropWhile (filledWidth · == 0)).head kept) := by
    rw [← List.head?_drop, drop_usedTop, List.head?_eq_some_head kept]
  have width := List.head_dropWhile_not (filledWidth · == 0) kept
  rw [beq_eq_false_iff_ne] at width
  apply width
  rw [filledWidth_eq_zero_iff (getElem?_of_usedRows found)]
  exact not_exists.mp blank

theorem display_of_not_isFilledAt {row column : Nat}
    (blank : ¬ worksheet.IsFilledAt row column) :
    (worksheet.cell row column).display = "" :=
  Cell.display_of_not_isFilled (Bool.eq_false_iff.mpr blank)

/-- A worksheet is read with the texts of its cells where they stand. -/
theorem cell_read (worksheet : Worksheet) (row column : Nat) :
    worksheet.read.cell row column =
      (worksheet.cell row column).display := by
  rw [Sheet.cell, rows_read]
  by_cases above : row < worksheet.usedTop
  · rw [List.getElem?_append_left (by simpa using above),
      List.getElem?_replicate_of_lt above,
      display_of_not_isFilledAt (not_isFilledAt_of_lt_usedTop above column)]
    rfl
  · rw [List.getElem?_append_right (by simpa using above),
      List.length_replicate, List.getElem?_map, List.getElem?_drop,
      Nat.add_sub_cancel' (Nat.le_of_not_lt above)]
    cases found : worksheet.usedRows[row]? with
    | none =>
        have below := length_usedRows_le_iff.mp
          (List.getElem?_eq_none_iff.mp found) row column (Nat.le_refl row)
        rw [display_of_not_isFilledAt below]
        rfl
    | some cells =>
        by_cases inside : column < worksheet.usedWidth
        · simp [displayRow, inside, cell, getElem?_of_usedRows found]
        · have right := usedWidth_le_iff.mp (Nat.le_of_not_lt inside) row
            column (Nat.le_refl column)
          rw [display_of_not_isFilledAt right]
          simp [displayRow, inside]

end Worksheet

/-- A rectangle of cells, by its first row and column and its size. -/
structure CellRange where
  top : Nat
  left : Nat
  height : Nat
  width : Nat

namespace CellRange

open Worksheet

variable {worksheet : Worksheet}

/-- The place lies in the range. -/
def Holds (range : CellRange) (row column : Nat) : Prop :=
  range.top ≤ row ∧ row < range.top + range.height ∧
    range.left ≤ column ∧ column < range.left + range.width

/-- All filled cells of the worksheet lie in the range. -/
def Encloses (range : CellRange) (worksheet : Worksheet) : Prop :=
  ∀ row column, worksheet.IsFilledAt row column → range.Holds row column

/-- The range is the smallest one around the filled cells of the worksheet. -/
structure IsUsed (range : CellRange) (worksheet : Worksheet) : Prop where
  encloses : range.Encloses worksheet
  least : ∀ other : CellRange, other.Encloses worksheet →
    ∀ row column, range.Holds row column → other.Holds row column

/-- The rows of the range, each with all its cells. -/
def cells (range : CellRange) (worksheet : Worksheet) : List (List Cell) :=
  (List.range range.height).map fun row =>
    (List.range range.width).map fun column =>
      worksheet.cell (range.top + row) (range.left + column)

/-- The sheet that has the texts of the range where they stand on the grid. -/
def sheet (range : CellRange) (worksheet : Worksheet) : Sheet where
  name := worksheet.name
  rows :=
    List.replicate range.top [] ++ (range.cells worksheet).map fun cells =>
      List.replicate range.left "" ++ cells.map Cell.display

/-- The range of the rows and columns that are used, from the column `left`. -/
def used (worksheet : Worksheet) (left : Nat) : CellRange where
  top := worksheet.usedTop
  left := left
  height := worksheet.usedRows.length - worksheet.usedTop
  width := worksheet.usedWidth - left

theorem isUsed_used {left : Nat}
    (reached : ∃ row, worksheet.IsFilledAt row left)
    (first : ∀ row column, worksheet.IsFilledAt row column → left ≤ column) :
    (used worksheet left).IsUsed worksheet := by
  constructor
  · intro row column filled
    have below : worksheet.usedTop ≤ row := by
      by_contra above
      exact not_isFilledAt_of_lt_usedTop (Nat.lt_of_not_le above) column filled
    have above : row < worksheet.usedRows.length := by
      by_contra below
      exact length_usedRows_le_iff.mp (Nat.le_of_not_lt below) row column
        (Nat.le_refl row) filled
    have before : column < worksheet.usedWidth := by
      by_contra after
      exact usedWidth_le_iff.mp (Nat.le_of_not_lt after) row column
        (Nat.le_refl column) filled
    have after := first row column filled
    simp only [Holds, used]
    omega
  · intro other encloses row column held
    obtain ⟨leftRow, leftFilled⟩ := reached
    obtain ⟨topColumn, topFilled⟩ :=
      exists_isFilledAt_usedTop ⟨leftRow, left, leftFilled⟩
    have top := (encloses _ _ topFilled).1
    have side := (encloses _ _ leftFilled).2.2.1
    have height : worksheet.usedRows.length ≤ other.top + other.height := by
      apply length_usedRows_le_iff.mpr
      intro row column bound filled
      exact Nat.not_lt_of_le bound (encloses row column filled).2.1
    have width : worksheet.usedWidth ≤ other.left + other.width := by
      apply usedWidth_le_iff.mpr
      intro row column bound filled
      exact Nat.not_lt_of_le bound (encloses row column filled).2.2.2
    simp only [Holds, used] at held ⊢
    omega

theorem displayRow_add {cells : List Cell} {left : Nat}
    (blank : ∀ column < left, (cells[column]?.getD .empty).isFilled = false)
    (width : Nat) :
    displayRow (left + width) cells =
      List.replicate left "" ++
        ((List.range width).map fun column =>
          cells[left + column]?.getD .empty).map Cell.display := by
  have before : (List.range left).map
      (fun column => (cells[column]?.getD .empty).display) =
        List.replicate left "" := by
    conv_rhs => rw [← List.length_range (n := left), ← List.map_const']
    apply List.map_congr_left
    intro column listed
    exact Cell.display_of_not_isFilled (blank column (List.mem_range.mp listed))
  rw [displayRow, List.range_add, List.map_append, before, List.map_map,
    List.map_map]
  rfl

/-- What is read is the used range at its place on the grid. -/
theorem sheet_used {left : Nat}
    (reached : ∃ row, worksheet.IsFilledAt row left)
    (first : ∀ row column, worksheet.IsFilledAt row column → left ≤ column) :
    (used worksheet left).sheet worksheet = worksheet.read := by
  have within : left ≤ worksheet.usedWidth := by
    obtain ⟨row, filled⟩ := reached
    by_contra beyond
    exact usedWidth_le_iff.mp (Nat.le_refl _) row left (by omega) filled
  have rows : (worksheet.usedRows.drop worksheet.usedTop).map
      (displayRow worksheet.usedWidth) =
        ((used worksheet left).cells worksheet).map fun cells =>
          List.replicate left "" ++ cells.map Cell.display := by
    apply List.ext_getElem
    · simp [used, cells]
    · intro place bound _
      rw [List.length_map, List.length_drop] at bound
      have found := getElem?_of_usedRows (List.getElem?_eq_getElem
        (show worksheet.usedTop + place < worksheet.usedRows.length by omega))
      have blank : ∀ column < left,
          ((worksheet.usedRows[worksheet.usedTop + place])[column]?.getD
            .empty).isFilled = false := by
        intro column before
        rw [← Bool.not_eq_true, ← isFilledAt_of_getElem? found]
        exact fun filled => Nat.not_le_of_lt before (first _ _ filled)
      have row := displayRow_add blank (worksheet.usedWidth - left)
      rw [Nat.add_sub_cancel' within] at row
      simp only [List.getElem_map, List.getElem_drop, cells, used,
        List.getElem_range, row, cell, found, Option.bind_some]
  rw [sheet, read.eq_def, Sheet.mk.injEq]
  exact ⟨rfl, (congrArg (List.replicate worksheet.usedTop [] ++ ·)
    rows.symm).trans worksheet.rows_read.symm⟩

theorem exists_isUsed (filled : ∃ row column, worksheet.IsFilledAt row column) :
    ∃ range : CellRange, range.IsUsed worksheet ∧
      range.sheet worksheet = worksheet.read := by
  have columns : ∃ column row, worksheet.IsFilledAt row column := by
    obtain ⟨row, column, here⟩ := filled
    exact ⟨column, row, here⟩
  classical
  have reached := Nat.find_spec columns
  have first : ∀ row column, worksheet.IsFilledAt row column →
      Nat.find columns ≤ column :=
    fun row column here => Nat.find_min' columns ⟨row, here⟩
  exact ⟨used worksheet (Nat.find columns), isUsed_used reached first,
    sheet_used reached first⟩

end CellRange

namespace Worksheet

/-- The worksheet that rows of texts are written to. -/
def ofTexts (name : String) (rows : List (List String)) : Worksheet :=
  ⟨name, rows.map (List.map Cell.text)⟩

variable (name : String) (rows : List (List String))

theorem cell_ofTexts (row column : Nat) :
    (ofTexts name rows).cell row column =
      (((rows[row]?).bind (·[column]?)).map Cell.text).getD .empty := by
  rw [cell, ofTexts, List.getElem?_map]
  cases rows[row]? with
  | none => rfl
  | some texts =>
      simp only [Option.map_some, Option.bind_some, List.getElem?_map]

theorem display_cell_ofTexts (row column : Nat) :
    ((ofTexts name rows).cell row column).display =
      (Sheet.ofRows name rows).cell row column := by
  rw [cell_ofTexts, Sheet.cell_ofRows]
  cases (rows[row]?).bind (·[column]?) with
  | none => decide
  | some text => rfl

variable {rows}

theorem exists_isFilledAt_ofTexts
    (filled : ∃ texts ∈ rows, ∃ text ∈ texts, text ≠ "") :
    ∃ row column, (ofTexts name rows).IsFilledAt row column := by
  obtain ⟨texts, listed, text, inRow, written⟩ := filled
  obtain ⟨row, atRow⟩ := List.getElem?_of_mem listed
  obtain ⟨column, atColumn⟩ := List.getElem?_of_mem inRow
  refine ⟨row, column, ?_⟩
  rw [IsFilledAt, cell_ofTexts, atRow, Option.bind_some, atColumn]
  simpa [Cell.isFilled] using written

theorem rows_read_ne_nil {worksheet : Worksheet}
    (filled : ∃ row column, worksheet.IsFilledAt row column) :
    worksheet.read.rows ≠ [] := by
  obtain ⟨row, column, here⟩ := filled
  intro none
  have length := congrArg List.length (worksheet.rows_read.symm.trans none)
  rw [List.length_append, List.length_replicate, List.length_map,
    List.length_drop, List.length_nil] at length
  have nothing : worksheet.usedRows.length ≤ row := by omega
  exact length_usedRows_le_iff.mp nothing row column (Nat.le_refl row) here

/-- Writing rows to a workbook and reading them back gives a sheet with the
same cells. -/
theorem sameCells_read_ofTexts
    (filled : ∃ texts ∈ rows, ∃ text ∈ texts, text ≠ "") :
    (ofTexts name rows).read.SameCells (Sheet.ofRows name rows) where
  name_eq := rfl
  rows_eq_nil_iff := by
    obtain ⟨texts, listed, inside⟩ := filled
    have some : (Sheet.ofRows name rows).rows ≠ [] := by
      rw [Sheet.ofRows, Ne, List.map_eq_nil_iff]
      exact List.ne_nil_of_mem listed
    have read := rows_read_ne_nil
      (exists_isFilledAt_ofTexts name ⟨texts, listed, inside⟩)
    exact iff_of_false read some
  cell_eq := by
    intro row column
    rw [cell_read, display_cell_ofTexts]

end Worksheet

namespace Page

open Worksheet

/-- A page is the same whether its rows are read from a workbook or given as
they are.  The workbook is read from the smallest rectangle around the cells
that are not empty, put back at its place; this has the cells of the rows, and
is the same page with the same warnings, or has the same fault. -/
theorem parse_read_ofTexts (name : String) (rows : List (List String))
    (filled : ∃ texts ∈ rows, ∃ text ∈ texts, text ≠ "") :
    ∃ range : CellRange, range.IsUsed (ofTexts name rows) ∧
      range.sheet (ofTexts name rows) = (ofTexts name rows).read ∧
      (∀ row column, (ofTexts name rows).read.cell row column =
        (Sheet.ofRows name rows).cell row column) ∧
      parse (ofTexts name rows).read = parse (Sheet.ofRows name rows) ∧
      depthGaps (ofTexts name rows).read =
        depthGaps (Sheet.ofRows name rows) := by
  obtain ⟨range, used, read⟩ :=
    CellRange.exists_isUsed (exists_isFilledAt_ofTexts name filled)
  have same := sameCells_read_ofTexts name filled
  exact ⟨range, used, read, same.cell_eq, parse_congr same,
    depthGaps_congr same⟩

/-- Ragged rows, two of which at the end are blank, one of them with a blank
written in it. -/
def blankEdgedRows : List (List String) :=
  [["", " attribute", "en", ""], ["path", "", "/a"], ["body"], [" "], ["", ""]]

theorem parse_read_blankEdgedRows :
    (∃ texts ∈ blankEdgedRows, ∃ text ∈ texts, text ≠ "") ∧
      ∃ range : CellRange, range.IsUsed (ofTexts "edges" blankEdgedRows) ∧
        range.sheet (ofTexts "edges" blankEdgedRows) =
          (ofTexts "edges" blankEdgedRows).read ∧
        (∀ row column, (ofTexts "edges" blankEdgedRows).read.cell row column =
          (Sheet.ofRows "edges" blankEdgedRows).cell row column) ∧
        parse (ofTexts "edges" blankEdgedRows).read =
          parse (Sheet.ofRows "edges" blankEdgedRows) ∧
        depthGaps (ofTexts "edges" blankEdgedRows).read =
          depthGaps (Sheet.ofRows "edges" blankEdgedRows) := by
  have filled : ∃ texts ∈ blankEdgedRows, ∃ text ∈ texts, text ≠ "" := by
    decide
  exact ⟨filled, parse_read_ofTexts "edges" blankEdgedRows filled⟩

end Page

end WorkbookSite

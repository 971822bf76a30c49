import WorkbookSite.Proofs.SheetPages

/-!
# The header of a sheet by its cells

The attribute column and the locales of a sheet are what the cells of its first
row say: the first cell with the attribute marker, and the cells after it up to
the first blank one.  Sheets with the same cells there have the same layout,
however long their rows are.
-/

namespace WorkbookSite.Sheet

variable {sheet : Sheet} {column : Nat} {locales : List String}

theorem cell_zero (sheet : Sheet) (column : Nat) :
    sheet.cell 0 column = (sheet.rows.headD [])[column]?.getD "" := by
  rw [cell]
  cases sheet.rows <;> rfl

theorem cell_ofRows (name : String) (rows : List (List String))
    (row column : Nat) :
    (ofRows name rows).cell row column =
      Text.trim (((rows[row]?).bind (·[column]?)).getD "") := by
  have blank : Text.trim "" = "" := by decide
  rw [cell, ofRows, List.getElem?_map]
  cases rows[row]? with
  | none => exact blank.symm
  | some cells =>
      simp only [Option.map_some, Option.bind_some, List.getElem?_map]
      cases cells[column]? with
      | none => exact blank.symm
      | some text => rfl

/-- The first row has its first attribute marker in the given column, and right
of it the given locales up to a blank cell. -/
structure HeaderReads (sheet : Sheet) (column : Nat) (locales : List String) :
    Prop where
  marked : sheet.cell 0 column = "attribute"
  first : ∀ earlier < column, sheet.cell 0 earlier ≠ "attribute"
  named : "" ∉ locales
  listed : ∀ (place : Nat) (locale : String), locales[place]? = some locale →
    sheet.cell 0 (column + 1 + place) = locale
  ends : sheet.cell 0 (column + 1 + locales.length) = ""

theorem mem_and_idxOf_eq_iff {cells : List String} {mark : String}
    (visible : mark ≠ "") :
    mark ∈ cells ∧ cells.idxOf mark = column ↔
      cells[column]?.getD "" = mark ∧
        ∀ earlier < column, cells[earlier]?.getD "" ≠ mark := by
  induction cells generalizing column with
  | nil => simp [visible.symm]
  | cons cell cells induction =>
      cases column with
      | zero =>
          by_cases here : cell = mark
          · simp [here]
          · simp [here, List.idxOf_cons_ne cells here]
      | succ column =>
          by_cases here : cell = mark
          · subst here
            simp only [List.idxOf_cons_self, Nat.right_eq_add,
              Nat.add_eq_zero_iff, Nat.succ_ne_self, and_false, false_iff]
            rintro ⟨-, first⟩
            exact first 0 (Nat.succ_pos column) rfl
          · have later := @induction column
            rw [List.idxOf_cons_ne cells here, List.mem_cons,
              Nat.succ_inj, or_iff_right (Ne.symm here), later,
              Nat.forall_lt_succ_left]
            simp [here]

/-- The cells up to the first blank one, by their places. -/
theorem takeWhile_filled_eq_iff {cells run : List String} :
    cells.takeWhile (· != "") = run ↔
      "" ∉ run ∧
        (∀ (place : Nat) (cell : String), run[place]? = some cell →
          cells[place]?.getD "" = cell) ∧
        cells[run.length]?.getD "" = "" := by
  induction run generalizing cells with
  | nil =>
      cases cells with
      | nil => simp
      | cons cell cells => by_cases blank : cell = "" <;> simp [blank]
  | cons next run induction =>
      cases cells with
      | nil =>
          simp only [List.takeWhile_nil, reduceCtorEq, false_iff]
          rintro ⟨named, listed, -⟩
          have blank : "" = next := listed 0 next rfl
          exact named (by simp [blank])
      | cons cell cells =>
          by_cases blank : cell = ""
          · subst blank
            rw [List.takeWhile_cons_of_neg (by simp)]
            simp only [reduceCtorEq, false_iff]
            rintro ⟨named, listed, -⟩
            have blank : "" = next := listed 0 next rfl
            exact named (by simp [blank])
          · rw [List.takeWhile_cons_of_pos (by simpa using blank),
              List.cons.injEq, induction]
            constructor
            · rintro ⟨rfl, named, listed, ends⟩
              refine ⟨by simpa [Ne.symm blank] using named, ?_, ends⟩
              intro place other found
              cases place with
              | zero => simpa using found
              | succ place => exact listed place other found
            · rintro ⟨named, listed, ends⟩
              exact ⟨listed 0 next rfl,
                fun member => named (List.mem_cons_of_mem _ member),
                fun place => listed (place + 1), ends⟩

/-- The layout of a sheet is what the cells of its header say. -/
theorem headerReads_iff :
    sheet.HeaderReads column locales ↔
      "attribute" ∈ sheet.rows.headD [] ∧ sheet.attributeColumn = column ∧
        sheet.localeRun = locales := by
  have marker := @mem_and_idxOf_eq_iff column (sheet.rows.headD [])
    "attribute" (by decide)
  simp only [← cell_zero] at marker
  constructor
  · rintro ⟨marked, first, named, listed, ends⟩
    obtain ⟨present, placed⟩ := marker.mpr ⟨marked, first⟩
    refine ⟨present, placed, ?_⟩
    rw [localeRun, attributeColumn, placed, takeWhile_filled_eq_iff]
    simp only [List.getElem?_drop, ← cell_zero]
    exact ⟨named, listed, ends⟩
  · rintro ⟨present, placed, run⟩
    obtain ⟨marked, first⟩ := marker.mp ⟨present, placed⟩
    rw [localeRun, placed, takeWhile_filled_eq_iff] at run
    simp only [List.getElem?_drop, ← cell_zero] at run
    exact ⟨marked, first, run.1, run.2.1, run.2.2⟩

theorem HeaderFits.headerReads (header : sheet.HeaderFits) :
    sheet.HeaderReads sheet.attributeColumn sheet.localeRun :=
  headerReads_iff.mpr ⟨header.marked, rfl, rfl⟩

end WorkbookSite.Sheet

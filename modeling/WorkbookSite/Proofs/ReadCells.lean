import WorkbookSite.Proofs.SameCells

/-!
# The cells that are read

Of the cells of a sheet only some are ever read: in the header the first
attribute marker and the locales after it, in the second row the path marker and
the paths, and in each further row the key with the blank cells before it, and
the values of the locales.  Sheets that agree on these cells are the same page
with the same warnings, or fail alike, whatever else is written in them.
-/

namespace WorkbookSite

namespace Sheet

/-- The sheets have one name and agree on the cells that are read: both headers
have their first attribute marker in the given column and the given locales
right of it, and the second row agrees on its first cell and on the paths.  Each
further row agrees on the cells up to its key, as far as the attribute column,
and on the values of the locales. -/
structure ReadAlike (sheet other : Sheet) (marker : Nat)
    (locales : List String) : Prop where
  name_eq : sheet.name = other.name
  header : sheet.HeaderReads marker locales
  header' : other.HeaderReads marker locales
  start_eq : sheet.cell 1 0 = other.cell 1 0
  key_eq : ∀ row, 2 ≤ row → ∀ column ≤ marker,
    (∀ left < column, sheet.cell row left = "") →
      sheet.cell row column = other.cell row column
  value_eq : ∀ row, 1 ≤ row → ∀ place < locales.length,
    sheet.cell row (marker + 1 + place) = other.cell row (marker + 1 + place)

theorem HeaderReads.rows_ne_nil {sheet : Sheet} {column : Nat}
    {locales : List String} (header : sheet.HeaderReads column locales) :
    sheet.rows ≠ [] := by
  intro empty
  have marked := (headerReads_iff.mp header).1
  simp [empty] at marked

end Sheet

namespace Layout

variable {layout : Layout} {sheet other : Sheet} {row : Nat}

/-- The key of a row is found by the cells up to it.  Those left of it are
blank, so that sheets that agree on each cell after blank ones agree on it. -/
theorem keyColumn?_congr
    (same : ∀ column ≤ layout.attributeColumn,
      (∀ left < column, sheet.cell row left = "") →
        sheet.cell row column = other.cell row column) :
    layout.keyColumn? sheet row = layout.keyColumn? other row := by
  symm
  cases found : layout.keyColumn? sheet row with
  | some column =>
      obtain ⟨filled, inRange, before⟩ := List.find?_range_eq_some.mp found
      have bound := Nat.le_of_lt_succ (List.mem_range.mp inRange)
      have blank : ∀ left < column, sheet.cell row left = "" :=
        fun left order => by simpa using before left order
      refine List.find?_range_eq_some.mpr ⟨?_, inRange, ?_⟩
      · rwa [← same column bound blank]
      · intro left order
        rw [← same left (by omega) fun further less =>
          blank further (Nat.lt_trans less order)]
        exact before left order
  | none =>
      have blank : ∀ column ≤ layout.attributeColumn,
          sheet.cell row column = "" := by
        intro column bound
        simpa using List.find?_eq_none.mp found column
          (List.mem_range.mpr (Nat.lt_succ_of_le bound))
      apply List.find?_eq_none.mpr
      intro column member
      have bound := Nat.le_of_lt_succ (List.mem_range.mp member)
      rw [← same column bound fun left order => blank left (by omega),
        blank column bound]
      simp

theorem rowValues_congr
    (same : ∀ place < layout.locales.length,
      sheet.cell row (layout.attributeColumn + 1 + place) =
        other.cell row (layout.attributeColumn + 1 + place)) :
    layout.rowValues sheet row = layout.rowValues other row := by
  apply List.filterMap_congr
  rintro ⟨locale, column⟩ member
  obtain ⟨place, inside, rfl⟩ := mem_localeColumns member
  simp only [same place inside]

theorem readRow_eq_of_agree
    (keys : ∀ column ≤ layout.attributeColumn,
      (∀ left < column, sheet.cell row left = "") →
        sheet.cell row column = other.cell row column)
    (values : ∀ place < layout.locales.length,
      sheet.cell row (layout.attributeColumn + 1 + place) =
        other.cell row (layout.attributeColumn + 1 + place)) :
    layout.readRow sheet row = layout.readRow other row := by
  rw [readRow, readRow, ← keyColumn?_congr keys, rowValues_congr values]
  cases found : layout.keyColumn? sheet row with
  | none => rfl
  | some column =>
      obtain ⟨-, inRange, before⟩ := List.find?_range_eq_some.mp found
      have key := keys column (Nat.le_of_lt_succ (List.mem_range.mp inRange))
        fun left order => by simpa using before left order
      simp only [key]

theorem readPaths_eq_of_agree (start : sheet.cell 1 0 = other.cell 1 0)
    (paths : ∀ place < layout.locales.length,
      sheet.cell 1 (layout.attributeColumn + 1 + place) =
        other.cell 1 (layout.attributeColumn + 1 + place)) :
    layout.readPaths sheet = layout.readPaths other := by
  rw [readPaths_eq, readPaths_eq, start]
  congr 1
  apply Outcome.mapM_congr
  rintro ⟨locale, column⟩ member
  obtain ⟨place, inside, rfl⟩ := mem_localeColumns member
  simp only [readPath, paths place inside]

end Layout

namespace Page

variable {sheet other : Sheet} {marker : Nat} {locales : List String}

/-- Sheets that agree on the cells that are read are the same page with the same
warnings, or have the same fault with the same warnings before it.  The number
of rows is not compared: a sheet without a second row has no path marker, like
one whose second row starts with another cell. -/
theorem parse_of_readAlike (alike : sheet.ReadAlike other marker locales) :
    parse sheet = parse other ∧ depthGaps sheet = depthGaps other := by
  obtain ⟨marked, columns, run⟩ := Sheet.headerReads_iff.mp alike.header
  obtain ⟨marked', columns', run'⟩ := Sheet.headerReads_iff.mp alike.header'
  apply parse_eq_of_readings_eq alike.name_eq
  · exact iff_of_false alike.header.rows_ne_nil alike.header'.rows_ne_nil
  · rw [Layout.ofHeader_eq_ofMarker marked, Layout.ofHeader_eq_ofMarker marked',
      columns, columns', run, run']
  · intro layout headed
    have describes := (Layout.ofHeader_eq_ok headed).1
    obtain rfl : layout.attributeColumn = marker :=
      describes.column.trans columns
    obtain rfl : layout.locales = locales := describes.locales.trans run
    constructor
    · exact Layout.readPaths_eq_of_agree alike.start_eq
        (alike.value_eq 1 (Nat.le_refl 1))
    · apply Layout.readEntries_eq_of_readRow_eq
      intro row below
      exact Layout.readRow_eq_of_agree (alike.key_eq row below)
        (alike.value_eq row (Nat.le_of_succ_le below))

/-- A sheet that skips a level, without anything that is not read. -/
def bareSheet : Sheet :=
  ⟨"notes",
    [["", "", "", "attribute", "en"], ["path", "", "", "", "/index.html"],
     ["body"], ["", "", "em", "", "deep"]]⟩

/-- The same sheet with notes in the header, beside the paths, behind keys,
right of the locales and in a row of its own. -/
def notedSheet : Sheet :=
  ⟨"notes",
    [["draft", "", "path", "attribute", "en", "", "attribute", "en"],
     ["path", "old", "", "id", "/index.html", "/other.html"],
     ["body", "p", "", "class", "", "see below"],
     ["", "", "em", "id", "deep", "note"], ["", "", "", "", "", "note"], []]⟩

theorem readAlike_notedSheet : bareSheet.ReadAlike notedSheet 3 ["en"] where
  name_eq := rfl
  header := Sheet.headerReads_iff.mpr (by decide)
  header' := Sheet.headerReads_iff.mpr (by decide)
  start_eq := rfl
  key_eq := by
    intro row low
    rcases row with _ | _ | _ | _ | _ | _ | row
    · omega
    · omega
    · decide
    · decide
    · decide
    · decide
    · exact fun _ _ _ => rfl
  value_eq := by
    intro row low
    rcases row with _ | _ | _ | _ | _ | _ | row
    · omega
    · decide
    · decide
    · decide
    · decide
    · decide
    · exact fun _ _ => rfl

theorem parse_readAlike_notedSheet :
    bareSheet.ReadAlike notedSheet 3 ["en"] ∧
      (parse bareSheet).toOption.isSome = true ∧
      depthGaps bareSheet = [⟨"notes", 4, "em"⟩] ∧
      parse bareSheet = parse notedSheet ∧
      depthGaps bareSheet = depthGaps notedSheet :=
  ⟨readAlike_notedSheet, by decide +kernel, by decide +kernel,
    parse_of_readAlike readAlike_notedSheet⟩

end Page

end WorkbookSite

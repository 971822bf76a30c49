import WorkbookSite.Outline
import WorkbookSite.Sheet
import WorkbookSite.Text.Quoted

/-!
# Layout of a sheet

The first row of a sheet marks the attribute column and, right of it, the
locales.  The second row holds one output path per locale.  Every other row
has a key in one of the columns up to the attribute column, and values in the
columns of the locales.  `LayoutError` names each way to break this layout.
-/

namespace WorkbookSite

/-- What is wrong with the layout of a sheet. -/
inductive LayoutFault where
  | empty
  | missingAttributeColumn
  | misplacedAttributeColumn
  | noLocales
  | duplicateLocale (locale : String)
  | missingPathRow
  | missingPath (locale : String)
  /-- A row, counted from one, has values but no key. -/
  | orphanValues (row : Nat)
deriving DecidableEq, Repr

/-- A fault, with the name of the sheet that has it. -/
structure LayoutError where
  sheet : String
  fault : LayoutFault
deriving DecidableEq, Repr

namespace LayoutError

def message (error : LayoutError) : String :=
  let sheet := Text.quoted error.sheet
  match error.fault with
  | .empty => s!"Sheet {sheet} is empty"
  | .missingAttributeColumn =>
      s!"Sheet {sheet} has no \"attribute\" column in its header row"
  | .misplacedAttributeColumn =>
      s!"Sheet {sheet}: the \"attribute\" column cannot be the first column"
  | .noLocales => s!"No locales in sheet {sheet}"
  | .duplicateLocale locale =>
      let code := Text.quoted locale
      s!"Sheet {sheet} lists locale {code} more than once"
  | .missingPathRow => s!"Path row missing or incomplete for sheet {sheet}"
  | .missingPath locale =>
      let code := Text.quoted locale
      s!"Sheet {sheet} has no output path for locale {code}"
  | .orphanValues row =>
      s!"Sheet {sheet}, row {row}: values without an element or attribute name"

end LayoutError

/-- The columns of a sheet: keys stand in the columns up to and including
`attributeColumn`, and the values of the locales in the columns after it. -/
structure Layout where
  attributeColumn : Nat
  locales : List String
deriving DecidableEq, Repr

namespace Layout

/-- The cells after the attribute marker up to the first blank one.  A code
that was seen before is refused. -/
def readLocales (seen : List String) :
    List String → Except LayoutFault (List String)
  | [] => .ok seen
  | cell :: cells =>
      if cell = "" then .ok seen
      else if cell ∈ seen then .error (.duplicateLocale cell)
      else readLocales (seen ++ [cell]) cells

def ofHeader (header : List String) : Except LayoutFault Layout :=
  match header.idxOf? "attribute" with
  | none => .error .missingAttributeColumn
  | some 0 => .error .misplacedAttributeColumn
  | some column => do
      let locales ← readLocales [] (header.drop (column + 1))
      if locales.isEmpty then .error .noLocales
      else .ok ⟨column, locales⟩

/-- Each locale with the column of its values. -/
def localeColumns (layout : Layout) : List (String × Nat) :=
  layout.locales.zipIdx (layout.attributeColumn + 1)

/-- Reads the path row: one path for every locale. -/
def readPaths (layout : Layout) (sheet : Sheet) :
    Except LayoutFault (List (String × String)) :=
  if sheet.rows.length < 2 ∨ sheet.cell 1 0 ≠ "path" then
    .error .missingPathRow
  else
    layout.localeColumns.mapM fun (locale, column) =>
      let path := sheet.cell 1 column
      if path = "" then .error (.missingPath locale) else .ok (locale, path)

/-- The first column of a row, up to the attribute column, that is not
blank. -/
def keyColumn? (layout : Layout) (sheet : Sheet) (row : Nat) : Option Nat :=
  (List.range (layout.attributeColumn + 1)).find? (sheet.cell row · != "")

/-- The values of a row, for the locales that have one. -/
def rowValues (layout : Layout) (sheet : Sheet) (row : Nat) :
    List (String × String) :=
  layout.localeColumns.filterMap fun (locale, column) =>
    let value := sheet.cell row column
    if value = "" then none else some (locale, value)

/-- What a row of a sheet is. -/
inductive RowKind where
  | blank
  | entry (entry : Entry)
  /-- The row has values, but no key that they could belong to. -/
  | orphan

def readRow (layout : Layout) (sheet : Sheet) (row : Nat) : RowKind :=
  let values := layout.rowValues sheet row
  match layout.keyColumn? sheet row with
  | some column =>
      .entry
        { key := sheet.cell row column
          isAttribute := column == layout.attributeColumn
          values := values
          row := row + 1
          depth := column + 1 }
  | none => if values.isEmpty then .blank else .orphan

/-- The entries of the given rows up to the first orphan row, and the number of
that row, counted from one, if there is one. -/
def readRows (layout : Layout) (sheet : Sheet) :
    List Nat → List Entry × Option Nat
  | [] => ([], none)
  | row :: rows =>
      match layout.readRow sheet row with
      | .blank => layout.readRows sheet rows
      | .orphan => ([], some (row + 1))
      | .entry entry =>
          let (entries, orphan) := layout.readRows sheet rows
          (entry :: entries, orphan)

def readEntries (layout : Layout) (sheet : Sheet) : List Entry × Option Nat :=
  layout.readRows sheet ((List.range sheet.rows.length).drop 2)

end Layout

end WorkbookSite

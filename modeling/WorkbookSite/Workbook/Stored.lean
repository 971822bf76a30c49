import WorkbookSite.Workbook.Reader

/-!
# Stored workbooks

The reader of the workbooks that a file system stores as such.  They are all of
one format, and cannot be opened under an extension that is read as another one.
-/

namespace WorkbookSite

namespace Site

/-- Extensions of the formats that are opened as nothing else, and that no
stored workbook has. -/
def foreignExtensions : List String := ["xls", "xla", "xlsb", "ods"]

/-- The workbook in a file, if it can be opened under the path of the file. -/
def openWorkbook? (path : Path) (content : Content) : Option Workbook :=
  match content with
  | .text _ | .bytes _ => none
  | .workbook workbook =>
      if path.extension?.any (foreignExtensions.contains ·) then none
      else some workbook

end Site

/-- A stored workbook that is open; all its cells can be read. -/
def Workbook.opened (workbook : Workbook) : OpenedWorkbook :=
  ⟨workbook.worksheets.map fun worksheet =>
    ⟨worksheet.name, .ok worksheet.rows⟩⟩

instance storedWorkbooks : WorkbookReader where
  opened path content :=
    match Site.openWorkbook? path content with
    | none => .error "no workbook of the format"
    | some workbook => .ok workbook.opened
  opened_congr := by
    intro path other content extension
    cases content with
    | text | bytes => rfl
    | workbook workbook => simp only [Site.openWorkbook?, extension]

end WorkbookSite

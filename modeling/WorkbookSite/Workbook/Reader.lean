import WorkbookSite.Files.FileSystem
import WorkbookSite.Text.Quoted

/-!
# Workbook readers

How a file is opened as a workbook is left to a `WorkbookReader`, which tells
the format of a file from the extension of its path.  What it opens are
worksheets by name, in the order of the workbook; the cells of any of them may
turn out to be unreadable.  The sheets of a workbook are read all at once, so
that there are none if one of them cannot be read.
-/

namespace WorkbookSite

/-- Why there are no sheets of a workbook. -/
inductive SheetError where
  | opening (path : Path) (message : String)
  | reading (sheet message : String)
deriving DecidableEq, Repr, Inhabited

def SheetError.message : SheetError → String
  | .opening _ message =>
      String.join ["Failed to open workbook: ", message]
  | .reading sheet message =>
      String.join ["Failed to read sheet ", Text.quoted sheet, ": ", message]

/-- A worksheet of a workbook that is open. -/
structure OpenedWorksheet where
  name : String
  /-- The rows of its cells, or why they cannot be read. -/
  cells : Except String (List (List Cell))
deriving Repr

/-- The sheet of the cells of a worksheet. -/
def OpenedWorksheet.read (worksheet : OpenedWorksheet) :
    Except SheetError Sheet :=
  match worksheet.cells with
  | .error message => .error (.reading worksheet.name message)
  | .ok cells => .ok (Worksheet.read ⟨worksheet.name, cells⟩)

/-- A workbook that is open. -/
structure OpenedWorkbook where
  worksheets : List OpenedWorksheet
deriving Repr

/-- The sheets of a workbook, or the first one that cannot be read. -/
def OpenedWorkbook.sheets (workbook : OpenedWorkbook) :
    Except SheetError (List Sheet) :=
  workbook.worksheets.mapM OpenedWorksheet.read

/-- What opens the files of workbooks. -/
class WorkbookReader where
  /-- The workbook in a file under its path, or why it cannot be opened. -/
  opened : Path → Content → Except String OpenedWorkbook
  /-- The path matters only for its extension. -/
  opened_congr : ∀ {path other : Path} (content : Content),
    path.extension? = other.extension? → opened path content =
      opened other content

/-- The workbook in a file. -/
def WorkbookReader.openFile [WorkbookReader] (path : Path)
    (content : Content) : Except SheetError OpenedWorkbook :=
  (opened path content).mapError (.opening path)

/-- The sheets of the workbook in a file. -/
def WorkbookReader.sheets [WorkbookReader] (path : Path) (content : Content) :
    Except SheetError (List Sheet) := do
  let workbook ← openFile path content
  workbook.sheets

end WorkbookSite

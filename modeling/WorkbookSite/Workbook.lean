import WorkbookSite.Decimal.Shortest
import WorkbookSite.Sheet

/-!
# Workbooks

A workbook holds worksheets, and a worksheet a grid of typed cells.  Reading a
worksheet gives the sheet of the texts of its used range, the smallest
rectangle around its filled cells, placed back on the grid that starts at the
first row and column.
-/

namespace WorkbookSite

/-- What a worksheet holds at one place. -/
inductive Cell where
  | empty
  | text (content : String)
  | number (value : Decimal.Binary64)
  | truth (value : Bool)
deriving DecidableEq, Repr, Inhabited

namespace Cell

/-- Whether the cell counts towards the used range.  Writing the empty text
leaves a cell empty; a text of blanks fills it. -/
def isFilled : Cell → Bool
  | .empty => false
  | .text content => content != ""
  | .number _ | .truth _ => true

/-- The trimmed text that a reader of the workbook sees. -/
def display : Cell → String
  | .empty => ""
  | .text content => Text.trim content
  | .number value => value.text
  | .truth true => "true"
  | .truth false => "false"

end Cell

structure Worksheet where
  name : String
  rows : List (List Cell)
deriving DecidableEq, Repr, Inhabited

namespace Worksheet

/-- Number of columns up to the last filled cell of a row. -/
def filledWidth (row : List Cell) : Nat :=
  (row.reverse.dropWhile (!·.isFilled)).length

/-- Number of columns up to the last column of the used range. -/
def usedWidth (worksheet : Worksheet) : Nat :=
  (worksheet.rows.map filledWidth).foldl max 0

/-- The rows without those below the used range. -/
def usedRows (worksheet : Worksheet) : List (List Cell) :=
  (worksheet.rows.reverse.dropWhile (filledWidth · == 0)).reverse

/-- The texts of the first `width` cells of a row, padded with empty ones. -/
def displayRow (width : Nat) (row : List Cell) : List String :=
  (List.range width).map fun column => (row[column]?.getD .empty).display

/-- The sheet of the used range.  Rows above it stay empty; every row of it
reaches from the first column to the last column of the range. -/
def read (worksheet : Worksheet) : Sheet where
  name := worksheet.name
  rows :=
    let rows := worksheet.usedRows
    (rows.takeWhile (filledWidth · == 0)).map (fun _ => []) ++
      (rows.dropWhile (filledWidth · == 0)).map
        (displayRow worksheet.usedWidth)

end Worksheet

structure Workbook where
  worksheets : List Worksheet
deriving DecidableEq, Repr, Inhabited

namespace Workbook

/-- The workbook that is stored for the given worksheets: one without
worksheets is given an empty first one. -/
def store (worksheets : List Worksheet) : Workbook :=
  if worksheets.isEmpty then ⟨[⟨"Sheet1", []⟩]⟩ else ⟨worksheets⟩

def sheets (workbook : Workbook) : List Sheet :=
  workbook.worksheets.map Worksheet.read

end Workbook

end WorkbookSite

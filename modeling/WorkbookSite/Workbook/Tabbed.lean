import WorkbookSite.Workbook

/-!
# Workbooks as plain text

A workbook can be kept as lines of text: the first line is `workbook`, a line
`sheet` starts a worksheet and names it, and a line `row` holds the cells of one
row.  The parts of a line are separated by tabs, so a cell cannot hold a tab or
a line end.
-/

namespace WorkbookSite.Workbook

def splitText (separator : Char) : List Char → List (List Char)
  | [] => [[]]
  | character :: rest =>
      if character = separator then [] :: splitText separator rest
      else
        match splitText separator rest with
        | [] => [[character]]
        | part :: parts => (character :: part) :: parts

def addRow? (worksheets : List Worksheet) (row : List Cell) :
    Option (List Worksheet) :=
  worksheets.getLast?.map fun last =>
    worksheets.dropLast ++ [{ last with rows := last.rows ++ [row] }]

def takeLine? (worksheets : List Worksheet) (line : List String) :
    Option (List Worksheet) :=
  match line with
  | ["sheet", name] => some (worksheets ++ [⟨name, []⟩])
  | "row" :: cells => addRow? worksheets (cells.map Cell.text)
  | [""] => some worksheets
  | _ => none

/-- The workbook that a text stands for, if it is one. -/
def ofTabbedText? (text : String) : Option Workbook :=
  let lines := (splitText '\n' text.toList).map fun line =>
    (splitText '\t' line).map String.ofList
  match lines with
  | ["workbook"] :: lines => (lines.foldlM takeLine? []).map store
  | _ => none

def toTabbedText (workbook : Workbook) : String :=
  let line (parts : List String) : String := "\t".intercalate parts ++ "\n"
  let sheet (worksheet : Worksheet) : String :=
    line ["sheet", worksheet.name] ++
      String.join (worksheet.rows.map fun row =>
        line ("row" :: row.map Cell.display))
  "workbook\n" ++ String.join (workbook.worksheets.map sheet)

end WorkbookSite.Workbook

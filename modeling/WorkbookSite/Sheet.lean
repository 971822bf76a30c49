import WorkbookSite.Text.Blank

/-!
# Sheets

A sheet is a named grid of trimmed cells.  Rows may be ragged, and every cell
outside the stored rows reads as the empty text, so a reader never has to ask
how long a row is.
-/

namespace WorkbookSite

/-- A named grid of cells.  Rows and columns count from zero. -/
structure Sheet where
  name : String
  rows : List (List String)
deriving DecidableEq, Repr, Inhabited

namespace Sheet

/-- The sheet of the given rows, with every cell trimmed. -/
def ofRows (name : String) (rows : List (List String)) : Sheet :=
  ⟨name, rows.map (List.map Text.trim)⟩

/-- The cell at `row` and `column`; the empty text outside the grid. -/
def cell (sheet : Sheet) (row column : Nat) : String :=
  ((sheet.rows[row]?).bind (·[column]?)).getD ""

def isEmpty (sheet : Sheet) : Bool := sheet.rows.isEmpty

end Sheet

end WorkbookSite

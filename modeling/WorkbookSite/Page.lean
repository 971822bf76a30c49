import WorkbookSite.Page.Layout

/-!
# Pages

A page is what one sheet describes: its locales, one output path per locale,
and the outline of its elements.  `Page.parse` reads a sheet and reports the
first fault of its layout.  `Page.depthGaps` gives the warnings of the same
reading: the elements whose key lies more than one column right of the key
they are nested under.
-/

namespace WorkbookSite

/-- A page in all its locales. -/
structure Page where
  name : String
  /-- The locales in the order of the header, which is the fallback order. -/
  locales : List String
  /-- The output path of each locale, in the same order. -/
  paths : List (String × String)
  root : Outline
deriving Repr

/-- An element that skips nesting levels below its parent. -/
structure DepthGap where
  sheet : String
  row : Nat
  key : String
deriving DecidableEq, Repr

namespace Page

/-- Reads a sheet as a page. -/
def parse (sheet : Sheet) : Except LayoutError Page :=
  let reading : Except LayoutFault Page :=
    match sheet.rows with
    | [] => .error .empty
    | header :: _ => do
        let layout ← Layout.ofHeader header
        let paths ← layout.readPaths sheet
        match layout.readEntries sheet with
        | (_, some row) => .error (.orphanValues row)
        | (entries, none) =>
            .ok ⟨sheet.name, layout.locales, paths, .ofEntries entries⟩
  reading.mapError (⟨sheet.name, ·⟩)

/-- The gaps met while entries are read into the open outlines: the elements
that lie more than one level below the innermost outline open at their depth. -/
def gapsBelow (sheet : String) : Outline.Opened → List Entry → List DepthGap
  | _, [] => []
  | opened, entry :: entries =>
      let parent := (opened.close entry.depth).top.entry
      let later := gapsBelow sheet (opened.read entry) entries
      if !entry.isAttribute && parent.depth + 1 < entry.depth then
        ⟨sheet, entry.row, entry.key⟩ :: later
      else later

/-- The warnings of reading `sheet`, in row order.  Rows are only read when the
header and the path row are in order, and only up to the first orphan row. -/
def depthGaps (sheet : Sheet) : List DepthGap :=
  match Layout.ofHeader (sheet.rows.headD []) with
  | .error _ => []
  | .ok layout =>
      match layout.readPaths sheet with
      | .error _ => []
      | .ok _ => gapsBelow sheet.name .start (layout.readEntries sheet).1

def path? (page : Page) (locale : String) : Option String :=
  page.paths.lookup locale

def hasLocale (page : Page) (locale : String) : Bool :=
  page.locales.contains locale

end Page

end WorkbookSite

import WorkbookSite.Site.Settings

/-!
# Pages of a site

A site holds the pages of all its workbooks.  `Site.addSheets` adds the pages
of one workbook, up to the first sheet that is no page.  `Site.load` finds the
workbooks below a directory, in the order of a walk, and adds them one after
the other; how they are opened is left to a `WorkbookReader`.
-/

namespace WorkbookSite

/-- A page and the workbook it was read from. -/
structure SourcedPage where
  source : Path
  page : Page
deriving Repr

/-- The pages of a site in the order they were loaded. -/
structure Site where
  pages : List SourcedPage := []
deriving Repr

namespace Site

def isEmpty (site : Site) : Bool := site.pages.isEmpty

/-- The pages of the sheets up to the first one that is no page, and what is
wrong with that one. -/
def parseSheets : List Sheet → List Page × Option LayoutError
  | [] => ([], none)
  | sheet :: sheets =>
      match Page.parse sheet with
      | .error error => ([], some error)
      | .ok page =>
          let (pages, error) := parseSheets sheets
          (page :: pages, error)

/-- The warnings of reading the sheets up to the first one that is no page,
which is read too. -/
def sheetGaps : List Sheet → List DepthGap
  | [] => []
  | sheet :: sheets =>
      match Page.parse sheet with
      | .error _ => Page.depthGaps sheet
      | .ok _ => Page.depthGaps sheet ++ sheetGaps sheets

/-- Adds the pages of the sheets of one workbook, and counts the sheets.  The
pages before a sheet that is no page are kept. -/
def addSheets (site : Site) (source : Path) (sheets : List Sheet) :
    Site × Except SiteError Nat :=
  let (pages, error) := parseSheets sheets
  let site := ⟨site.pages ++ pages.map (⟨source, ·⟩)⟩
  match error with
  | none => (site, .ok sheets.length)
  | some cause => (site, .error (.layout source cause))

/-- Adds the pages of a source of sheets. -/
def addSource (site : Site) (source : Path)
    (sheets : Except SheetError (List Sheet)) : Site × Except SiteError Nat :=
  match sheets with
  | .error cause => (site, .error (.workbook ⟨source, cause⟩))
  | .ok sheets => site.addSheets source sheets

/-- The locales of all pages, each where it is first met. -/
def locales (site : Site) : List String :=
  site.pages.foldl (fun locales sourced =>
    sourced.page.locales.foldl (fun locales locale =>
      if locale ∈ locales then locales else locales ++ [locale]) locales) []

def workbookExtensions : List String := ["xlsx", "xlsm", "xls", "ods"]

/-- Whether a path names a workbook by its extension, in any case. -/
def isWorkbookPath (path : Path) : Bool :=
  path.extension?.any fun extension =>
    workbookExtensions.contains
      (String.ofList (extension.toList.map Char.toLower))

/-- Whether a file name is that of a backup which an editor keeps while a
workbook is open. -/
def isBackupName (name : String) : Bool := name.toList.head? == some '~'

/-- Whether the place that `names` lead to from `directory` is `exclude` or
lies below it.  Paths are compared by their components. -/
def isExcluded (directory : Path) (exclude : Option Path)
    (names : List String) : Bool :=
  match exclude.bind (·.namesBelow? directory) with
  | some excluded => excluded.isPrefixOf names
  | none => false

def placeBelow (directory : Path) (names : List String) : Path :=
  names.foldl (fun path name => path.join ⟨name⟩) directory

/-- The workbook files below a directory, in the order of a walk. -/
def workbookFiles (files : FileSystem) (directory : Path)
    (location : Location) (exclude : Option Path) : List (Path × Content) :=
  (files.below location).filterMap fun (names, item) =>
    let path := placeBelow directory names
    match item with
    | .directory => none
    | .file content =>
        if isExcluded directory exclude names || !isWorkbookPath path ||
            (names.getLast?.any isBackupName) then none
        else some (path, content)

variable [WorkbookReader]

/-- Adds the pages of workbook files, up to the first one that cannot be opened
or has a sheet that cannot be read or is no page. -/
def addFiles (site : Site) : List (Path × Content) → Except SiteError Site
  | [] => .ok site
  | (path, content) :: others =>
      match site.addSource path (WorkbookReader.sheets path content) with
      | (site, .ok _) => site.addFiles others
      | (_, .error error) => .error error

def fileGaps : List (Path × Content) → List DepthGap
  | [] => []
  | (path, content) :: others =>
      match WorkbookReader.sheets path content with
      | .error _ => []
      | .ok sheets =>
          let gaps := sheetGaps sheets
          match parseSheets sheets with
          | (_, none) => gaps ++ fileGaps others
          | (_, some _) => gaps

/-- Loads the site of all workbooks below a directory, leaving out `exclude`
and what is below it. -/
def load (files : FileSystem) (directory : Path) (exclude : Option Path) :
    Except SiteError Site :=
  match files.locate directory with
  | .error _ => .error (.missingSpecDirectory directory)
  | .ok location =>
      if files.isDirectoryAt location then
        addFiles {} (workbookFiles files directory location exclude)
      else .error (.missingSpecDirectory directory)

def loadGaps (files : FileSystem) (directory : Path) (exclude : Option Path) :
    List DepthGap :=
  match files.locate directory with
  | .error _ => []
  | .ok location =>
      if files.isDirectoryAt location then
        fileGaps (workbookFiles files directory location exclude)
      else []

end Site

end WorkbookSite

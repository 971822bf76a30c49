import WorkbookSite.Files.Path
import WorkbookSite.Rendering
import WorkbookSite.Workbook.Reader

/-!
# Build settings and errors

The settings of a build name the directories of a site, each as a path below
the site directory.  `SiteError` lists what can stop a build or a check.
-/

namespace WorkbookSite

/-- How a site is built. -/
structure BuildSettings where
  siteDirectory : Path
  /-- Where the workbooks are. -/
  specDirectory : Path
  /-- What is copied into the output as it is. -/
  staticDirectory : Path
  outputDirectory : Path
  /-- Whether older output is removed first. -/
  clean : Bool
  lang : LangPlacement
  /-- Address of the site; without one no sitemap is written. -/
  sitemapBase : Option String
deriving DecidableEq, Repr

namespace BuildSettings

def specPath (settings : BuildSettings) : Path :=
  settings.siteDirectory.join settings.specDirectory

def staticPath (settings : BuildSettings) : Path :=
  settings.siteDirectory.join settings.staticDirectory

def outputPath (settings : BuildSettings) : Path :=
  settings.siteDirectory.join settings.outputDirectory

end BuildSettings

/-- A workbook without sheets. -/
structure UnreadWorkbook where
  path : Path
  cause : SheetError
deriving DecidableEq, Repr

def UnreadWorkbook.text (unread : UnreadWorkbook) : String := unread.path.text

inductive SiteError where
  | missingSpecDirectory (path : Path)
  | unreadable (path : Path)
  | workbook (unread : UnreadWorkbook)
  | layout (path : Path) (cause : LayoutError)
  | render (page locale : String) (cause : RenderError)
  /-- An output path leaves the output directory or names no file. -/
  | invalidPath (page locale path : String)
  | duplicateOutput (path first second : String)
  /-- Removing the old output would remove `endangered`. -/
  | unsafeOutput (output endangered : Path)
  | write (path : Path)
deriving DecidableEq, Repr

namespace SiteError

def message : SiteError → String
  | .missingSpecDirectory path =>
      String.join ["Spec directory not found: ", path.text]
  | .unreadable path => String.join ["Failed to read ", path.text]
  | .workbook unread => String.join [unread.text, ": ", unread.cause.message]
  | .layout path cause => String.join [path.text, ": ", cause.message]
  | .render page locale cause =>
      String.join ["Page ", Text.quoted page, ", locale ", locale, ": ",
        cause.message]
  | .invalidPath page locale path =>
      String.join ["Page ", Text.quoted page, ", locale ", locale,
        ": output path ", Text.quoted path,
        " must stay inside the output directory"]
  | .duplicateOutput path first second =>
      String.join ["Pages ", Text.quoted first, " and ", Text.quoted second,
        " both write ", Text.quoted path]
  | .unsafeOutput output endangered =>
      String.join ["Refusing to clean output directory ", output.text,
        ": it would delete ", endangered.text]
  | .write path => String.join ["Failed to write ", path.text]

end SiteError

end WorkbookSite

import WorkbookSite.Files.FileSystem

/-!
# Starter site

`Scaffold.write` puts a configuration file, a workbook with one page and a
style sheet into a site directory.  Files that exist are only replaced when
that is asked for, and a site that has a spec directory is left alone.
-/

namespace WorkbookSite

inductive ScaffoldError where
  | directory
  | configuration
  | workbook
  | style
deriving DecidableEq, Repr

namespace ScaffoldError

def message : ScaffoldError → String
  | .directory => "Failed to create spec/static directory"
  | .configuration => "Failed to write site.toml"
  | .workbook => "Failed to write spec/site.xlsx"
  | .style => "Failed to write style.css"

end ScaffoldError

namespace Scaffold

/-- A text of whole lines. -/
def ofLines (lines : List String) : Content :=
  .text (String.join (lines.map (· ++ "\n")))

def configuration : Content :=
  ofLines
   ["# Sheetsite Configuration",
    "",
    "[site]",
    "# Directory holding the spec workbooks (one sheet per page)",
    "spec_dir = \"spec\"",
    "",
    "# Copied verbatim into the output before pages are written",
    "static_dir = \"spec/static\"",
    "",
    "# Output directory for the built site",
    "output = \"www\"",
    "",
    "# Remove the output directory before each build",
    "clean = true",
    "",
    "# Where the page locale goes: \"doctype\" or \"root\" (<html lang=\"..\">)",
    "lang = \"doctype\"",
    "",
    "[sitemap]",
    "# Uncomment to write sitemap.xml",
    "# base_url = \"https://example.org\""]

def style : Content :=
  ofLines
   ["body \x7b",
    "  font-family: system-ui, -apple-system, \"Segoe UI\", Roboto, sans-serif;",
    "  max-width: 40rem;",
    "  margin: 2rem auto;",
    "  padding: 0 1rem;",
    "  line-height: 1.5;",
    "\x7d",
    "",
    "footer \x7b",
    "  margin-top: 3rem;",
    "  font-size: 0.875rem;",
    "\x7d"]

def pageRows : List (List String) :=
  [["", "", "attribute", "en", "de"],
   ["path", "", "", "/index.html", "/de/index.html"],
   ["head"],
   ["", "meta"],
   ["", "", "charset", "utf-8"],
   ["", "title", "", "Welcome", "Willkommen"],
   ["", "link"],
   ["", "", "rel", "stylesheet"],
   ["", "", "href", "/style.css"],
   ["body"],
   ["", "h1", "", "Welcome", "Willkommen"],
   ["", "p", "", "Edit <em>spec/site.xlsx</em> to change this page.",
    "Bearbeite <em>spec/site.xlsx</em>, um diese Seite zu ändern."],
   ["", "footer", "", "<a href=\"/de/index.html\">Deutsch</a>",
    "<a href=\"/index.html\">English</a>"]]

def workbook : Content :=
  .workbook (.store [⟨"index", pageRows.map (List.map Cell.text)⟩])

/-- Writes a file if it does not exist or may be replaced. -/
def writeNew (overwrite : Bool) (path : Path) (content : Content)
    (error : ScaffoldError) : FileAction ScaffoldError Unit := do
  let files ← get
  if overwrite || !files.pathExists path then
    discard <| (FileSystem.writeFile path content).orElseFail error

def write (directory : Path) (overwrite : Bool) :
    FileAction ScaffoldError Unit := do
  let spec := directory.join ⟨"spec"⟩
  let static := spec.join ⟨"static"⟩
  let files ← get
  if !files.pathExists spec || overwrite then
    (FileSystem.makeDirectories static).orElseFail .directory
    writeNew overwrite (directory.join ⟨"site.toml"⟩) configuration
      .configuration
    writeNew overwrite (spec.join ⟨"site.xlsx"⟩) workbook .workbook
    writeNew overwrite (static.join ⟨"style.css"⟩) style .style

end Scaffold

end WorkbookSite

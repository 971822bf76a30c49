import WorkbookSite.Markup.Printer
import WorkbookSite.Site.Assets
import WorkbookSite.Site.CleanGuard
import WorkbookSite.Site.Documents
import WorkbookSite.Site.Sitemap

/-!
# Builds

A build loads all pages of a site and renders them before it writes anything;
then it removes older output, copies the assets, and writes the documents and
the sitemap.  A check stops before the first write.
-/

namespace WorkbookSite

structure BuildReport where
  pages : Nat
  documents : Nat
  assets : Nat
  output : Path
deriving DecidableEq, Repr

structure CheckReport where
  pages : Nat
  documents : Nat
  locales : List String
deriving DecidableEq, Repr

/-- What is reported beside the outcome of a build, a check or a load. -/
inductive Warning where
  | depthGap (gap : DepthGap)
  | noPages (specPath : Path)
deriving DecidableEq, Repr

namespace Warning

def message : Warning → String
  | .depthGap _ =>
      "row skips nesting levels; attaching to nearest open ancestor"
  | .noPages specPath => String.join ["No pages found in ", specPath.text]

end Warning

namespace Build

variable [WorkbookReader]

/-- Loads the pages of a site; the assets are no pages. -/
def load (files : FileSystem) (settings : BuildSettings) :
    Except SiteError Site :=
  Site.load files settings.specPath (some settings.staticPath)

def prepare (files : FileSystem) (settings : BuildSettings) :
    Except SiteError (Site × List RenderedDocument) := do
  let site ← load files settings
  let documents ← site.render settings.lang
  .ok (site, documents)

def loadWarnings (files : FileSystem) (settings : BuildSettings) :
    List Warning :=
  let gaps := Site.loadGaps files settings.specPath (some settings.staticPath)
  let none :=
    match load files settings with
    | .ok site => if site.isEmpty then [.noPages settings.specPath] else []
    | .error _ => []
  gaps.map .depthGap ++ none

def check (files : FileSystem) (settings : BuildSettings) :
    Except SiteError CheckReport := do
  let (site, documents) ← prepare files settings
  .ok ⟨site.pages.length, documents.length, site.locales⟩

/-- The file that a document is written to. -/
def documentFile (output : Path) (document : RenderedDocument) : Path :=
  output.join (.ofNames ((Path.innerNames? ⟨document.path⟩).getD []))

def writeDocument (output : Path) (document : RenderedDocument) :
    FileAction SiteError Unit := do
  let file := documentFile output document
  (FileSystem.makeParents file).orElseFail (.write file)
  let content := Content.text document.document.toHtml
  discard <| (FileSystem.writeFile file content).orElseFail (.write file)

/-- Removes older output; there need not be any. -/
def removeOutput (output : Path) : FileAction SiteError Unit := fun files =>
  match FileSystem.removeTree output files with
  | (.error .obstructed, files) => (.error (.write output), files)
  | (_, files) => (.ok (), files)

/-- Copies the assets, if there are any, or makes an empty output directory.
Gives the number of files copied. -/
def writeAssets (source output : Path) : FileAction SiteError Nat := do
  let files ← get
  if files.isDirectory source then Assets.copyTree source output
  else
    (FileSystem.makeDirectories output).orElseFail (.write output)
    pure 0

def writeSitemap (base : String) (output : Path)
    (documents : List RenderedDocument) : FileAction SiteError Unit := do
  let file := output.join ⟨"sitemap.xml"⟩
  let content := Content.text (Sitemap.text base (documents.map (·.path)))
  discard <| (FileSystem.writeFile file content).orElseFail (.write file)

/-- Writes everything a build writes, and counts the assets. -/
def writeOutput (settings : BuildSettings)
    (documents : List RenderedDocument) : FileAction SiteError Nat := do
  let output := settings.outputPath
  if settings.clean then removeOutput output
  let assets ← writeAssets settings.staticPath output
  documents.forM (writeDocument output)
  match settings.sitemapBase with
  | none => pure ()
  | some base => writeSitemap base output documents
  pure assets

def guard (files : FileSystem) (settings : BuildSettings) :
    Except SiteError Unit :=
  if settings.clean then CleanGuard.check files settings else .ok ()

/-- Builds a site.  Nothing is written unless the whole site is rendered. -/
def run (settings : BuildSettings) : FileAction SiteError BuildReport := do
  let files ← get
  liftExcept (guard files settings)
  let (site, documents) ← liftExcept (prepare files settings)
  let assets ← writeOutput settings documents
  pure ⟨site.pages.length, documents.length, assets, settings.outputPath⟩

def runWarnings (files : FileSystem) (settings : BuildSettings) :
    List Warning :=
  match guard files settings with
  | .ok () => loadWarnings files settings
  | .error _ => []

end Build

end WorkbookSite

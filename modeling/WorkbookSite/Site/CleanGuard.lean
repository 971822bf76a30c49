import WorkbookSite.Files.FileSystem
import WorkbookSite.Site.Settings

/-!
# Clean guard

A build that removes older output must not remove what it is built from.  The
guard compares locations: that of a path that exists is where it leads, and any
other path is resolved by its components alone.
-/

namespace WorkbookSite.CleanGuard

/-- The location of components that are followed from `here` without a look at
the file system. -/
def resolve (here : Location) : List Component → Location
  | [] => here
  | .root :: rest => resolve [] rest
  | .current :: rest => resolve here rest
  | .parent :: rest => resolve here.dropLast rest
  | .name name :: rest => resolve (here ++ [name]) rest

/-- The location of a path by its components alone. -/
def lexicalLocation (files : FileSystem) (path : Path) : Location :=
  resolve files.workingDirectory path.components

/-- The location of a path.  The empty path has none. -/
def location? (files : FileSystem) (path : Path) : Option Location :=
  match files.locate path with
  | .ok location => some location
  | .error _ =>
      if path.isEmpty then none else some (lexicalLocation files path)

/-- Whether removing `output` would remove `path`.  The location of the empty
path is nothing, which everything starts with. -/
def endangers (files : FileSystem) (output path : Path) : Bool :=
  match location? files output, location? files path with
  | none, _ => true
  | some _, none => false
  | some directory, some place => directory.isPrefixOf place

/-- The first of the directories a site is built from that removing the output
directory would remove. -/
def endangered? (files : FileSystem) (settings : BuildSettings) :
    Option Path :=
  [settings.siteDirectory, settings.specPath, settings.staticPath].find?
    (endangers files settings.outputPath)

/-- Refuses to clean an output directory that holds what the site is built
from. -/
def check (files : FileSystem) (settings : BuildSettings) :
    Except SiteError Unit :=
  (endangered? files settings).elim (.ok ()) fun path =>
    .error (.unsafeOutput settings.outputPath path)

end WorkbookSite.CleanGuard

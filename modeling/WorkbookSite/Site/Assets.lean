import WorkbookSite.Files.FileSystem
import WorkbookSite.Site.Settings

/-!
# Assets

`Assets.copyTree` copies a tree of files as it is.  A directory is listed when
it is entered, just before its counterpart is made; so when the target lies
inside the source, files that were copied before a directory is entered are
copied on from there.
-/

namespace WorkbookSite.Assets

/-- Copies what is at `source` followed by `names`, and counts the files.  What
is inside a directory is copied by `copyInside`. -/
def copyItem (source : Location) (target : Path)
    (copyInside : List String → FileAction SiteError Nat)
    (names : List String) : FileAction SiteError Nat := do
  let files ← get
  let place := target.join (.ofNames names)
  match files.item? (source ++ names) with
  | none => pure 0
  | some (.file content) =>
      (FileSystem.copyFile (source ++ names) content place).orElseFail
        (.write place)
      pure 1
  | some .directory =>
      (FileSystem.makeDirectories place).orElseFail (.write place)
      (files.children (source ++ names)).foldlM (fun count name => do
        let copied ← copyInside (names ++ [name])
        pure (count + copied)) 0

/-- Copies what is at `source` followed by `names`, and counts the files.  Of a
tree, no more than `levels` levels are copied. -/
def copyPlace (source : Location) (target : Path) :
    Nat → List String → FileAction SiteError Nat
  | 0, names => throw (.write (target.join (.ofNames names)))
  | levels + 1, names =>
      copyItem source target (copyPlace source target levels) names

/-- Copies the tree at `source` to `target`, and counts its files.  No tree has
more levels than the file system has items, and no more items are made on the
way to `target` than its path has components; so only a copy into itself can
run out of levels. -/
def copyTree (source target : Path) : FileAction SiteError Nat := do
  let files ← get
  match files.locate source with
  | .error _ => throw (.unreadable source)
  | .ok location =>
      let levels := files.items.length + target.components.length + 1
      copyPlace location target levels []

end WorkbookSite.Assets

import WorkbookSite.Proofs.AddedFiles
import WorkbookSite.Proofs.EmptiedAssets

/-!
# Files that a build keeps

A build that removes nothing keeps each file that it does not replace by a
document, by the sitemap or by an asset from another place.  There is one
exception: if the static directory is the output directory, its files are
copied onto themselves and are empty afterwards.
-/

namespace WorkbookSite.Build

open FileSystem CleanGuard FileAction

variable {settings : BuildSettings} {documents : List RenderedDocument}
  {files after : FileSystem}

/-- The build gets as far as copying the assets, and it copies them from the
output directory, which is there or can be reached, to the output directory. -/
structure CopiesInPlace [WorkbookReader] (files : FileSystem)
    (settings : BuildSettings) : Prop where
  prepared : ∃ loaded, prepare files settings = .ok loaded
  located : files.locate settings.staticPath =
    .ok (lexicalLocation files settings.outputPath)
  directory : files.item? (lexicalLocation files settings.outputPath) =
    some .directory
  opens : (makeDirectories (settings.outputPath.join (.ofNames [])) files).1 =
    .ok ()

/-- The place is that of a document, of the sitemap or of the copy of an asset
from another place, and the content is what it is to hold. -/
def Replaces [WorkbookReader] (files : FileSystem) (settings : BuildSettings)
    (place : Location) (content : Content) : Prop :=
  ∃ site documents, prepare files settings = .ok (site, documents) ∧
    (Imported files settings place content ∨
      Published settings documents (lexicalLocation files settings.outputPath)
        place content)

theorem adds_of_apart (tree : files.IsTree)
    (inner : ∀ document ∈ documents,
      Path.innerNames? ⟨document.path⟩ = some document.names)
    {outcome : Except SiteError Nat}
    (apart : ¬ (files.locate settings.staticPath =
        .ok (lexicalLocation files settings.outputPath) ∧
      files.item? (lexicalLocation files settings.outputPath) =
        some .directory ∧
      (makeDirectories (settings.outputPath.join (.ofNames [])) files).1 =
        .ok ()))
    (ran : writeContents settings documents files = (outcome, after)) :
    Adds (fun place content => Imported files settings place content ∨
      Published settings documents (lexicalLocation files settings.outputPath)
        place content) files after := by
  refine (adds_writeContents inner (fun _ _ => .inr) ?_ ran).1
  by_cases opens : (makeDirectories
      (settings.outputPath.join (.ofNames [])) files).1 = .ok ()
  · apply (adds_writeAssets tree.named ?_).mono
    · exact fun _ adds => adds.mono fun _ _ => .inl
    · exact fun _ => id
    · rintro source located directory rfl
      exact apart ⟨located, directory, opens⟩
  · exact adds_writeAssets_of_closed tree.named opens

/-- What is written onto the assets that were copied onto themselves. -/
theorem adds_of_copiesInPlace [WorkbookReader] (tree : files.IsTree)
    (copies : CopiesInPlace files settings)
    (inner : ∀ document ∈ documents,
      Path.innerNames? ⟨document.path⟩ = some document.names)
    {outcome : Except SiteError Nat}
    (ran : writeContents settings documents files = (outcome, after)) :
    ∃ opened copied,
      makeDirectories (settings.outputPath.join (.ofNames [])) files =
        (.ok (), opened) ∧
      Emptied opened (fun place =>
        lexicalLocation files settings.outputPath <+: place) copied ∧
      Adds (Published settings documents
        (lexicalLocation files settings.outputPath)) copied after := by
  have made := ran_of_outcome copies.opens
  obtain ⟨count, copied, assets, emptied⟩ :=
    emptied_writeAssets tree copies.located copies.directory made
  refine ⟨_, copied, made, emptied, ?_⟩
  have settled : lexicalLocation copied settings.outputPath =
      lexicalLocation files settings.outputPath :=
    lexicalLocation_congr (emptied.settled.trans
      (opened_of_makeDirectories tree made).keeps.workingDirectory) _
  refine (adds_writeContents inner (by simp [settled]) ?_ ran).1
  intro outcome after ran
  rw [assets] at ran
  cases ran
  exact ⟨.refl emptied.tree.named, fun _ _ => trivial⟩

/-- After a build that removes nothing, however it ends, each file holds what
it is replaced by, or nothing if it is an asset that was copied onto itself, or
what it held before. -/
theorem file_after_run [WorkbookReader]
    {outcome : Except SiteError BuildReport} {place : Location}
    {content : Content} (unclean : settings.clean = false)
    (tree : files.IsTree) (ran : run settings files = (outcome, after))
    (stored : files.item? place = some (.file content)) :
    ∃ latest, after.item? place = some (.file latest) ∧
      (Replaces files settings place latest ∨
        latest = .text "" ∧ CopiesInPlace files settings ∧
          lexicalLocation files settings.outputPath <+: place ∨
        latest = content ∧ ¬ (CopiesInPlace files settings ∧
          lexicalLocation files settings.outputPath <+: place)) := by
  rcases run_ran ran with ⟨error, -, rfl, stopped⟩ |
    ⟨site, documents, result, -, prepared, wrote, -⟩
  · refine ⟨content, stored, .inr (.inr ⟨rfl, ?_⟩)⟩
    rintro ⟨copies, -⟩
    obtain ⟨loaded, prepared⟩ := copies.prepared
    rcases stopped with refused | ⟨-, failed⟩
    · simp [guard, unclean] at refused
    · rw [failed] at prepared
      cases prepared
  · have inner := Site.Renders.inner_of_mem (prepare_eq_ok.mp prepared).2.1
    rw [writeOutput_eq, unclean, if_neg Bool.false_ne_true] at wrote
    by_cases copies : CopiesInPlace files settings
    · obtain ⟨opened, copied, made, emptied, adds⟩ :=
        adds_of_copiesInPlace tree copies inner wrote
      have before := (file_makeDirectories made).mpr stored
      by_cases below : lexicalLocation files settings.outputPath <+: place
      · have empty := emptied.emptied before below
        obtain ⟨latest, found⟩ := adds.file empty
        refine ⟨latest, found, ?_⟩
        rcases adds.written found with same | published
        · rw [empty] at same
          cases same
          exact .inr (.inl ⟨rfl, copies, below⟩)
        · exact .inl ⟨site, documents, prepared, .inr published⟩
      · have left := emptied.left before below
        obtain ⟨latest, found⟩ := adds.file left
        refine ⟨latest, found, ?_⟩
        rcases adds.written found with same | published
        · rw [left] at same
          cases same
          exact .inr (.inr ⟨rfl, fun both => below both.2⟩)
        · exact .inl ⟨site, documents, prepared, .inr published⟩
    · have adds := adds_of_apart tree inner (fun both => copies
        ⟨⟨_, prepared⟩, both.1, both.2.1, both.2.2⟩) wrote
      obtain ⟨latest, found⟩ := adds.file stored
      refine ⟨latest, found, ?_⟩
      rcases adds.written found with same | replaced
      · rw [stored] at same
        cases same
        exact .inr (.inr ⟨rfl, fun both => copies both.1⟩)
      · exact .inl ⟨site, documents, prepared, replaced⟩

/-! ## Assets in the output directory -/

def inPlaceSettings : BuildSettings :=
  { nestedSettings with outputDirectory := ⟨"spec/static"⟩, clean := false }

/-- A site with one page and one asset. -/
def styledFiles : FileSystem where
  items :=
    [(["site"], .directory), (["site", "spec"], .directory),
     (["site", "spec", "site.xlsx"],
       .file (.workbook (pageWorkbook "index" "/index.html"))),
     (["site", "spec", "static"], .directory),
     (["site", "spec", "static", "style.css"], .file (.text "h1"))]

theorem isTree_styledFiles : styledFiles.IsTree := by
  apply isTree_of_items rfl
  decide +kernel

/-- Copied in place, the file is no asset that replaces another file, as it has
the same names below both directories. -/
theorem not_replaces_style (latest : Content) :
    ¬ Replaces styledFiles inPlaceSettings
      ["site", "spec", "static", "style.css"] latest := by
  have output : lexicalLocation styledFiles inPlaceSettings.outputPath =
      ["site", "spec", "static"] := by
    decide +kernel
  rintro ⟨site, documents, prepared, imported | published⟩
  · obtain ⟨source, names, located, spelled, elsewhere, -⟩ := imported
    have place := locate_eq_lexicalLocation located
    have same : lexicalLocation styledFiles inPlaceSettings.staticPath =
        lexicalLocation styledFiles inPlaceSettings.outputPath := by
      decide +kernel
    rw [spelled, place, same] at elsewhere
    exact elsewhere rfl
  · have names : (prepare styledFiles inPlaceSettings).toOption.map
        (fun loaded => loaded.2.map (·.names)) = some [["index.html"]] := by
      decide +kernel
    rw [prepared] at names
    replace names : documents.map (·.names) = [["index.html"]] :=
      Option.some.inj names
    rw [output] at published
    generalize place_eq : ["site", "spec", "static", "style.css"] = place
      at published
    cases published with
    | document listed =>
        have path := List.mem_map_of_mem (f := (·.names)) listed
        rw [names, List.mem_singleton] at path
        simp [path] at place_eq
    | sitemap configured => cases configured

/-- The file in the output directory is replaced by nothing, but it is empty
after the build, which succeeds. -/
theorem asset_emptied_in_place :
    inPlaceSettings.clean = false ∧ styledFiles.IsTree ∧
      (run inPlaceSettings styledFiles).1 =
        .ok ⟨1, 1, 1, ⟨"site/spec/static"⟩⟩ ∧
      styledFiles.item? ["site", "spec", "static", "style.css"] =
        some (.file (.text "h1")) ∧
      (∀ latest, ¬ Replaces styledFiles inPlaceSettings
        ["site", "spec", "static", "style.css"] latest) ∧
      (run inPlaceSettings styledFiles).2.item?
          ["site", "spec", "static", "style.css"] =
        some (.file (.text "")) :=
  ⟨rfl, isTree_styledFiles, Outcome.eq_ok_of_toOption (by decide +kernel),
    rfl, not_replaces_style, by decide +kernel⟩

/-- The assets are copied in place, and the file is one of them. -/
theorem file_after_run_in_place :
    inPlaceSettings.clean = false ∧ styledFiles.IsTree ∧
      styledFiles.item? ["site", "spec", "static", "style.css"] =
        some (.file (.text "h1")) ∧
      (run inPlaceSettings styledFiles).2.item?
        ["site", "spec", "static", "style.css"] = some (.file (.text "")) ∧
      CopiesInPlace styledFiles inPlaceSettings := by
  have ran : run inPlaceSettings styledFiles = (_, _) := (Prod.eta _).symm
  have emptied : (run inPlaceSettings styledFiles).2.item?
      ["site", "spec", "static", "style.css"] = some (.file (.text "")) := by
    decide +kernel
  refine ⟨rfl, isTree_styledFiles, rfl, emptied, ?_⟩
  obtain ⟨latest, found, replaced | ⟨-, copies, -⟩ | ⟨kept, -⟩⟩ :=
    file_after_run rfl isTree_styledFiles ran
      (rfl : styledFiles.item? ["site", "spec", "static", "style.css"] =
        some (.file (.text "h1")))
  · exact absurd replaced (not_replaces_style latest)
  · exact copies
  · rw [emptied, kept] at found
    simp at found

end WorkbookSite.Build

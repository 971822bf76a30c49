import WorkbookSite.Proofs.MirroredAssets
import WorkbookSite.Proofs.PlainBuilds

/-!
# Output trees

What a build leaves below its output directory can be said without the build:
the assets are there, the documents and the directories above them are laid
over the assets, and the sitemap is laid over both.
-/

namespace WorkbookSite.Build

open FileSystem CleanGuard FileAction

/-- What there is below the static directory, by the names that lead there. -/
def assetItem? (files : FileSystem) (settings : BuildSettings)
    (names : List String) : Option Item :=
  match files.locate settings.staticPath with
  | .ok source => files.item? (source ++ names)
  | .error _ => none

/-- The file of the document with these names, or a directory where there are
documents further below. -/
def documentItem? (documents : List RenderedDocument) (names : List String) :
    Option Item :=
  match documents.find? (·.names == names) with
  | some document => some (.file (.text document.document.toHtml))
  | none =>
      if ∃ document ∈ documents, names <+: document.names then some .directory
      else none

def sitemapItem? (settings : BuildSettings)
    (documents : List RenderedDocument) (names : List String) : Option Item :=
  if names = ["sitemap.xml"] then
    settings.sitemapBase.map fun base =>
      .file (.text (Sitemap.text base (documents.map (·.path))))
  else none

/-- What is to be below the output directory, by the names that lead there: the
sitemap over the documents over the assets. -/
def outputItem? (files : FileSystem) (settings : BuildSettings)
    (documents : List RenderedDocument) : List String → Option Item
  | [] => some .directory
  | name :: names =>
      (sitemapItem? settings documents (name :: names)).or
        ((documentItem? documents (name :: names)).or
          (assetItem? files settings (name :: names)))

variable {files after : FileSystem} {settings : BuildSettings}
  {documents : List RenderedDocument} {names : List String}

theorem sitemapItem?_eq_some_iff {item : Item} :
    sitemapItem? settings documents names = some item ↔
      names = ["sitemap.xml"] ∧ ∃ base, settings.sitemapBase = some base ∧
        .file (.text (Sitemap.text base (documents.map (·.path)))) = item := by
  rw [sitemapItem?]
  split
  · rename_i named
    rw [Option.map_eq_some_iff, and_iff_right named]
  · rename_i other
    simp [other]

theorem sitemapItem?_eq_none_iff :
    sitemapItem? settings documents names = none ↔
      (settings.sitemapBase.isSome = true → ["sitemap.xml"] ≠ names) := by
  rw [sitemapItem?]
  split
  · rename_i named
    simp [named]
  · rename_i other
    simp [Ne.symm other]

theorem documentItem?_eq_none_iff :
    documentItem? documents names = none ↔
      ∀ document ∈ documents, ¬ names <+: document.names := by
  rw [documentItem?]
  cases found : documents.find? (·.names == names) with
  | some document =>
      have same : document.names = names := by simpa using List.find?_some found
      simp only [reduceCtorEq, false_iff, not_forall, not_not]
      exact ⟨document, List.mem_of_find?_eq_some found,
        same ▸ List.prefix_rfl⟩
  | none => simp

theorem documentItem?_cases {item : Item}
    (found : documentItem? documents names = some item) :
    (∃ document ∈ documents, document.names = names ∧
        item = .file (.text document.document.toHtml)) ∨
      item = .directory ∧
        ∃ document ∈ documents, ∃ below, below ≠ [] ∧
          names ++ below = document.names := by
  rw [documentItem?] at found
  cases here : documents.find? (·.names == names) with
  | some document =>
      simp only [here] at found
      cases found
      exact .inl ⟨document, List.mem_of_find?_eq_some here,
        by simpa using List.find?_some here, rfl⟩
  | none =>
      simp only [here] at found
      split at found
      · rename_i above
        obtain ⟨document, listed, below, spelled⟩ := above
        cases found
        refine .inr ⟨rfl, document, listed, below, ?_, spelled⟩
        rintro rfl
        have other := List.find?_eq_none.mp here document listed
        rw [List.append_nil] at spelled
        simp [spelled] at other
      · cases found

theorem assetItem?_eq (tree : files.IsTree)
    (plain : settings.staticPath.IsPlain) (inside : names ≠ []) :
    assetItem? files settings names =
      if settings.staticPath.isEmpty then none
      else files.item?
        (lexicalLocation files settings.staticPath ++ names) := by
  rw [assetItem?]
  cases located : files.locate settings.staticPath with
  | ok source =>
      rw [(locate_eq_ok_iff.mp located).1, locate_eq_lexicalLocation located]
      rfl
  | error refusal =>
      simp only
      split
      · rfl
      · rename_i written
        by_contra found
        obtain ⟨item, stored⟩ := Option.ne_none_iff_exists'.mp (Ne.symm found)
        rw [plain.locate tree (Bool.eq_false_iff.mpr written)
          (tree.item?_above stored inside)] at located
        cases located

/-- A file that is not the file of a document or the sitemap stays as it is
while these are written. -/
theorem keeping_of_written {copied written : FileSystem} {home place : Location}
    {content : Content}
    (inner : ∀ document ∈ documents,
      Path.innerNames? ⟨document.path⟩ = some document.names)
    (wrote : documents.forM (writeDocument settings.outputPath) copied =
      (.ok (), written))
    (ended : match settings.sitemapBase with
      | none => after = written
      | some base =>
          writeSitemap base settings.outputPath documents written =
            (.ok (), after))
    (keeping : Keeping home place content copied)
    (noDocument : ∀ document ∈ documents,
      resolve home settings.outputPath.components ++ document.names ≠ place)
    (noSitemap : settings.sitemapBase.isSome = true →
      resolve home settings.outputPath.components ++ ["sitemap.xml"] ≠
        place) :
    Keeping home place content after := by
  have documentsWritten : Maintains (Keeping home place content)
      (fun _ => True)
      (documents.forM (writeDocument settings.outputPath)) := by
    apply Maintains.forM
    intro document listed
    exact Keeping.writable.writeDocument (inner document listed)
      (noDocument document listed)
  have kept := (documentsWritten keeping wrote).1
  cases configured : settings.sitemapBase with
  | none =>
      simp only [configured] at ended
      rw [ended]
      exact kept
  | some base =>
      simp only [configured] at ended
      exact (Keeping.writable.writeSitemap
        (noSitemap (by rw [configured]; rfl)) kept ended).1

namespace PlainBuild

variable (build : PlainBuild files settings)
include build

/-- An asset is found from the static directory when older output is removed,
and is there when the output directory is open. -/
theorem asset_reached {first : String} {rest : List String} {item : Item}
    (found : assetItem? files settings (first :: rest) = some item) :
    ∃ source,
      (emptied files settings).locate settings.staticPath = .ok source ∧
      first ∈ (emptied files settings).children source ∧
      (opened files settings).item? (source ++ first :: rest) = some item := by
  rw [assetItem?_eq build.tree build.plain.staticPath (by simp)] at found
  split at found
  · cases found
  · rename_i written
    replace written := Bool.eq_false_iff.mpr written
    have separate := build.static_separate written
    have directory : files.item? (lexicalLocation files settings.staticPath) =
        some .directory := build.tree.item?_above found (by simp)
    refine ⟨lexicalLocation files settings.staticPath, ?_, ?_, ?_⟩
    · rw [← build.item?_emptied separate.1] at directory
      rw [← lexicalLocation_congr build.settled] at directory ⊢
      exact build.plain.staticPath.locate build.treeEmptied written directory
    · rw [mem_children_iff, build.item?_emptied (separate.append [first]).1]
      rw [List.append_cons] at found
      exact build.tree.isSome_item?_above found
    · rw [build.item?_of_separate (separate.append _)]
      exact found

theorem assetItem?_of_opened {source : Location} {item : Item}
    (located : (emptied files settings).locate settings.staticPath =
      .ok source) (inside : names ≠ [])
    (stored : (opened files settings).item? (source ++ names) = some item) :
    assetItem? files settings names = some item := by
  have here := locate_eq_lexicalLocation located
  rw [lexicalLocation_congr build.settled] at here
  have written := (locate_eq_ok_iff.mp located).1
  rw [assetItem?_eq build.tree build.plain.staticPath inside, written]
  rw [here, build.item?_of_separate
    ((build.static_separate written).append names)] at stored
  exact stored

/-- All that is planned is an asset, a document, a directory above a document,
or the sitemap. -/
theorem planned_cases {kind : ItemKind} (inside : names ≠ [])
    (planned : Planned files settings documents names kind) :
    (∃ item, assetItem? files settings names = some item ∧
        item.kind = kind) ∨
      (∃ document ∈ documents, document.names = names ∧ kind = .file) ∨
      (∃ document ∈ documents, ∃ below, below ≠ [] ∧
        names ++ below = document.names ∧ kind = .directory) ∨
      settings.sitemapBase.isSome = true ∧ names = ["sitemap.xml"] ∧
        kind = .file := by
  induction planned with
  | present inside stored =>
      rw [build.item?_opened_below inside] at stored
      cases stored
  | asset located _ stored =>
      exact .inl ⟨_, build.assetItem?_of_opened located inside stored, rfl⟩
  | document listed => exact .inr (.inl ⟨_, listed, rfl, rfl⟩)
  | sitemap configured => exact .inr (.inr (.inr ⟨configured, rfl, rfl⟩))
  | @above names below kind planned _ lower induction =>
      rcases induction (by simp [inside]) with ⟨item, found, -⟩ |
        ⟨document, listed, spelled, -⟩ |
        ⟨document, listed, further, -, spelled, -⟩ | ⟨-, spelled, -⟩
      · refine .inl ⟨.directory, ?_, rfl⟩
        rw [assetItem?_eq build.tree build.plain.staticPath (by simp [inside])]
          at found
        rw [assetItem?_eq build.tree build.plain.staticPath inside]
        split at found
        · cases found
        · rename_i written
          rw [if_neg written]
          rw [← List.append_assoc] at found
          exact build.tree.item?_above found lower
      · exact .inr (.inr (.inl
          ⟨document, listed, below, lower, spelled.symm, rfl⟩))
      · refine .inr (.inr (.inl ⟨document, listed, below ++ further, ?_, ?_,
          rfl⟩))
        · simp [lower]
        · rw [← List.append_assoc]
          exact spelled
      · have lengths := congrArg List.length spelled
        rw [List.length_append, List.length_singleton] at lengths
        have first := List.length_pos_iff.mpr inside
        have second := List.length_pos_iff.mpr lower
        omega

/-- When the assets have been copied, the files below the output directory
mirror them. -/
theorem mirrors_of_writeAssets {source : Location} {count : Nat}
    (located : (emptied files settings).locate settings.staticPath =
      .ok source)
    (ran : writeAssets settings.staticPath settings.outputPath
      (emptied files settings) = (.ok count, after)) :
    Mirrors (opened files settings) settings.outputPath source after := by
  have start : Mirrors (opened files settings) settings.outputPath source
      (opened files settings) := by
    intro names content stored
    cases names with
    | nil =>
        rw [List.append_nil, build.ready.way.directory] at stored
        cases stored
    | cons name names =>
        rw [build.ready.location, build.item?_opened_below (by simp)] at stored
        cases stored
  rcases writeAssets_eq (emptied files settings) settings.staticPath
    settings.outputPath with ⟨-, same⟩ | ⟨other, leads, -, same⟩
  · rw [same] at ran
    obtain ⟨_, middle, made, ended⟩ := bind_succeeded ran
    replace made := orElseFail_succeeded made
    rw [build.ready.made] at made
    obtain ⟨-, rfl⟩ := Prod.mk.inj made
    obtain ⟨-, rfl⟩ := pure_ran.mp ended
    exact start
  · rw [located] at leads
    cases leads
    rw [same] at ran
    obtain ⟨_, middle, made, copying⟩ := bind_succeeded ran
    replace made := orElseFail_succeeded made
    rw [makeDirectories_output build.clear (.inr rfl), build.ready.made] at made
    obtain ⟨-, rfl⟩ := Prod.mk.inj made
    have covers : Plan.Covers (Planned files settings []) _ _ _ _ :=
      covers_planned build.passed build.clean build.assetsApart build.ready
        located
    have copies := copyable_mirrors build.ready.way build.ready.along.tree
      (closed_planned build.ready) covers
      (Nat.lt_succ_of_le build.ready.along.count) (opened files settings)
    refine (Assets.maintains_copyInside 0 (fun child listed =>
      copies.maintains [] (listed_child build.ready listed) ?_)
        ⟨⟨.start build.ready.along.tree, ?_⟩, start⟩ copying).1.2
    · rw [List.nil_append, List.length_singleton]
      omega
    · rw [List.append_nil]
      exact build.ready.way.directory

section

variable {assets : Nat}
  (inner : ∀ document ∈ documents,
    Path.innerNames? ⟨document.path⟩ = some document.names)
  (ran : writeOutput settings documents files = (.ok assets, after))
include inner ran

/-- All that is below the output directory is planned. -/
theorem filling :
    Filling (Planned files settings documents) (opened files settings)
      settings.outputPath (opened files settings) after :=
  (filling_writeOutput build.passed build.clean build.clear build.assetsApart
    build.ready inner ran).1

/-- A file among the assets is copied, and no document and no sitemap takes its
place if none has its names. -/
theorem asset_stored {first : String} {rest : List String} {content : Content}
    (found : assetItem? files settings (first :: rest) =
      some (.file content))
    (noDocument : ∀ document ∈ documents, document.names ≠ first :: rest)
    (noSitemap : settings.sitemapBase.isSome = true →
      ["sitemap.xml"] ≠ first :: rest) :
    after.item? (lexicalLocation files settings.outputPath ++ first :: rest) =
      some (.file content) := by
  obtain ⟨source, located, listed, stored⟩ := build.asset_reached found
  obtain ⟨left, copied, written, cleaned, assetsCopied, wrote, ended⟩ :=
    writeOutput_succeeded ran
  rw [if_pos build.clean, build.ready.removed] at cleaned
  cases cleaned
  have copies := copied_of_writeAssets build.passed build.clean build.clear
    build.assetsApart build.ready build.tree located listed assetsCopied
  obtain ⟨copy, there, kind⟩ := @copies rest _ stored
  cases copy with
  | directory => cases kind
  | file latest =>
      rw [List.singleton_append] at there
      rw [build.mirrors_of_writeAssets located assetsCopied there] at stored
      cases stored
      have grown : Extends (Target settings documents) _ _ :=
        extends_writeAssets assetsCopied
      have place : resolve copied.workingDirectory
          settings.outputPath.components =
            lexicalLocation files settings.outputPath := by
        rw [grown.workingDirectory, build.settled, lexicalLocation]
      rw [build.ready.location, ← place] at there
      rw [← place]
      apply (keeping_of_written inner wrote ended ⟨rfl, there⟩ ?_ ?_).stored
      · intro document listed same
        exact noDocument document listed (List.append_cancel_left same)
      · intro configured same
        exact noSitemap configured (List.append_cancel_left same)

theorem sitemap_stored {base : String}
    (configured : settings.sitemapBase = some base) :
    after.item?
        (lexicalLocation files settings.outputPath ++ ["sitemap.xml"]) =
      some (.file (.text
        (Sitemap.text base (documents.map (·.path))))) := by
  have filling := build.filling inner ran
  obtain ⟨left, copied, written, cleaned, assetsCopied, wrote, ended⟩ :=
    writeOutput_succeeded ran
  simp only [configured] at ended
  have held := (holds_of_writeSitemap ended).stored
  have mapped := (extends_writeSitemap configured ended).toKeeps
  rw [lexicalLocation_sitemap, ← mapped.lexicalLocation, filling.location,
    build.ready.location] at held
  exact held

/-- There is nothing but the assets, the documents and the directories above
them, and the sitemap. -/
theorem nothing_stored (inside : names ≠ [])
    (noAsset : assetItem? files settings names = none)
    (noDocument : ∀ document ∈ documents, ¬ names <+: document.names)
    (noSitemap : settings.sitemapBase.isSome = true →
      ["sitemap.xml"] ≠ names) :
    after.item? (lexicalLocation files settings.outputPath ++ names) =
      none := by
  have filling := build.filling inner ran
  by_contra found
  obtain ⟨item, stored⟩ := Option.ne_none_iff_exists'.mp found
  rw [← build.ready.location] at stored
  have planned :=
    filling.planned_of_item? (closed_planned build.ready) inside stored
  rcases build.planned_cases inside planned with ⟨item, here, -⟩ |
    ⟨document, listed, named, -⟩ | ⟨document, listed, below, -, spelled, -⟩ |
    ⟨configured, named, -⟩
  · rw [noAsset] at here
    cases here
  · exact noDocument document listed (named ▸ List.prefix_rfl)
  · exact noDocument document listed ⟨below, spelled⟩
  · exact noSitemap configured named.symm

end

section

variable {variants : List (Page × String)} {assets : Nat}
  (rendered : List.Forall₂ (Site.Renders settings.lang) variants documents)
  (distinct : (documents.map RenderedDocument.names).Nodup)
  (ran : writeOutput settings documents files = (.ok assets, after))
include rendered distinct ran

theorem directory_stored
    (planned : Planned files settings documents names .directory) :
    after.item? (lexicalLocation files settings.outputPath ++ names) =
      some .directory := by
  obtain ⟨item, stored, kind⟩ := planned_present build.passed build.clean
    build.clear build.assetsApart build.ready build.tree
    (Site.Renders.inner_of_mem rendered) distinct ran planned
  rw [stored, Item.eq_directory_of_kind kind]

theorem document_stored {item : Item} (inside : names ≠ [])
    (found : documentItem? documents names = some item)
    (noSitemap : settings.sitemapBase.isSome = true →
      ["sitemap.xml"] ≠ names) :
    after.item? (lexicalLocation files settings.outputPath ++ names) =
      some item := by
  rcases documentItem?_cases found with ⟨document, listed, named, rfl⟩ |
    ⟨rfl, document, listed, below, lower, spelled⟩
  · have kept := (stored_iff_of_writeOutput rendered distinct ran
      listed).2.mpr fun ⟨configured, same⟩ =>
        noSitemap configured (same.symm.trans named)
    rw [documentPlace, named] at kept
    exact kept
  · have planned : Planned files settings documents (names ++ below) .file := by
      rw [spelled]
      exact .document listed
    exact build.directory_stored rendered distinct ran
      (planned.above inside lower)

/-- A build that has written everything leaves the output tree, whatever there
was before. -/
theorem item?_of_writeOutput (names : List String) :
    after.item? (lexicalLocation files settings.outputPath ++ names) =
      outputItem? files settings documents names := by
  have inner := Site.Renders.inner_of_mem rendered
  cases names with
  | nil =>
      rw [List.append_nil, ← build.ready.location]
      exact (build.filling inner ran).grown.directory build.ready.way.directory
  | cons first rest =>
      rw [outputItem?]
      cases sitemap : sitemapItem? settings documents (first :: rest) with
      | some item =>
          obtain ⟨named, base, configured, rfl⟩ :=
            sitemapItem?_eq_some_iff.mp sitemap
          rw [named]
          exact build.sitemap_stored inner ran configured
      | none =>
          rw [sitemapItem?_eq_none_iff] at sitemap
          rw [Option.none_or]
          cases found : documentItem? documents (first :: rest) with
          | some item =>
              exact build.document_stored rendered distinct ran (by simp) found
                sitemap
          | none =>
              rw [documentItem?_eq_none_iff] at found
              rw [Option.none_or]
              cases asset : assetItem? files settings (first :: rest) with
              | none =>
                  exact build.nothing_stored inner ran (by simp) asset found
                    sitemap
              | some item =>
                  cases item with
                  | directory =>
                      obtain ⟨source, located, listed, stored⟩ :=
                        build.asset_reached asset
                      exact build.directory_stored rendered distinct ran
                        (.asset located listed stored)
                  | file content =>
                      apply build.asset_stored inner ran asset ?_ sitemap
                      intro document listed named
                      exact found document listed (named ▸ List.prefix_rfl)

end

end PlainBuild

end WorkbookSite.Build

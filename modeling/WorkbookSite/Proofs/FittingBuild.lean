import Mathlib.Data.List.Infix
import WorkbookSite.Proofs.CheckedBuild
import WorkbookSite.Proofs.CopiedAssets
import WorkbookSite.Proofs.SurvivingDocuments

/-!
# Builds whose output fits

A check finds documents that are to be one file, but not a document that is to
be above another one, nor one that is in the way of an asset or the sitemap.
Once older output is removed, a build of a site that passes the check succeeds
only if all that is planned below the output directory fits; and then it does,
if the system takes the paths of the site and of the output.
-/

namespace WorkbookSite.Build

open FileSystem CleanGuard FileAction

variable {settings : BuildSettings} {documents : List RenderedDocument}
  {files after : FileSystem}

/-- The files when older output is removed. -/
def emptied (files : FileSystem) (settings : BuildSettings) : FileSystem :=
  (removeOutput settings.outputPath files).2

/-- The files when the output directory is there again. -/
def opened (files : FileSystem) (settings : BuildSettings) : FileSystem :=
  (makeDirectories settings.outputPath (emptied files settings)).2

/-- What a build is to have below its output directory: what is still there,
the assets, the documents and the sitemap, and the directories above them. -/
inductive Planned (files : FileSystem) (settings : BuildSettings)
    (documents : List RenderedDocument) : Plan where
  | present {names : List String} {item : Item} (inside : names ≠ [])
      (stored : (opened files settings).item?
        (lexicalLocation files settings.outputPath ++ names) = some item) :
      Planned files settings documents names item.kind
  | asset {source : Location} {first : String} {rest : List String}
      {item : Item}
      (located : (emptied files settings).locate settings.staticPath =
        .ok source)
      (listed : first ∈ (emptied files settings).children source)
      (stored : (opened files settings).item? (source ++ first :: rest) =
        some item) :
      Planned files settings documents (first :: rest) item.kind
  | document {document : RenderedDocument} (listed : document ∈ documents) :
      Planned files settings documents document.names .file
  | sitemap (configured : settings.sitemapBase.isSome = true) :
      Planned files settings documents ["sitemap.xml"] .file
  | above {names below : List String} {kind : ItemKind}
      (planned : Planned files settings documents (names ++ below) kind)
      (inside : names ≠ []) (lower : below ≠ []) :
      Planned files settings documents names .directory

/-- No asset is the output directory or above it. -/
def AssetsApart (files : FileSystem) (settings : BuildSettings) : Prop :=
  ∀ ⦃source first⦄,
    (emptied files settings).locate settings.staticPath = .ok source →
      first ∈ (emptied files settings).children source →
        ¬ source ++ [first] <+: lexicalLocation files settings.outputPath

/-- The system takes the paths that a build reads and those that it writes. -/
structure Accepted (files : FileSystem) (settings : BuildSettings)
    (documents : List RenderedDocument) : Prop where
  spec : ∀ ⦃place⦄, files.locate settings.specPath = .ok place →
    files.acceptsBelow settings.specPath place = true
  asset : ∀ ⦃source⦄, files.locate settings.staticPath = .ok source →
    files.acceptsBelow settings.staticPath source = true ∧
      files.acceptsBelow settings.outputPath source = true
  output : accepts (settings.outputPath.join (.ofNames [])) = true
  document : ∀ document ∈ documents,
    accepts (documentFile settings.outputPath document) = true
  sitemap : settings.sitemapBase.isSome = true →
    accepts (settings.outputPath.join ⟨"sitemap.xml"⟩) = true

theorem written_of_guard (clean : settings.clean = true)
    (passed : guard files settings = .ok ()) :
    settings.outputPath.isEmpty = false := by
  rw [guard, if_pos clean] at passed
  by_contra empty
  rw [Bool.not_eq_false] at empty
  have safe := List.find?_eq_none.mp (endangered?_of_check passed)
    settings.siteDirectory (by simp)
  simp [CleanGuard.endangers, location?_eq, empty] at safe

/-- Past the guard, the output directory is not above what the site is built
from. -/
theorem not_prefix_of_guard {path : Path} (clean : settings.clean = true)
    (passed : guard files settings = .ok ())
    (guarded : path ∈
      [settings.siteDirectory, settings.specPath, settings.staticPath])
    (written : path.isEmpty = false) :
    ¬ lexicalLocation files settings.outputPath <+:
      lexicalLocation files path := by
  have outputWritten := written_of_guard clean passed
  rw [guard, if_pos clean] at passed
  have safe :=
    List.find?_eq_none.mp (endangered?_of_check passed) path guarded
  simpa [CleanGuard.endangers, location?_eq, outputWritten, written] using safe

/-- Older output is removed, and the output directory is open. -/
structure Ready (files : FileSystem) (settings : BuildSettings) : Prop where
  removed : removeOutput settings.outputPath files =
    (.ok (), emptied files settings)
  made : makeDirectories settings.outputPath (emptied files settings) =
    (.ok (), opened files settings)
  along : Along (emptied files settings).workingDirectory
    settings.outputPath.components (emptied files settings) (.ok ())
    (opened files settings)
  way : (opened files settings).OpenTo settings.outputPath
  location : lexicalLocation (opened files settings) settings.outputPath =
    lexicalLocation files settings.outputPath

theorem ready_of_succeeded (tree : files.IsTree)
    (clear : ClearWay files settings.outputPath)
    (removed : removeOutput settings.outputPath files =
      (.ok (), emptied files settings))
    (made : makeDirectories settings.outputPath (emptied files settings) =
      (.ok (), opened files settings)) : Ready files settings := by
  obtain ⟨treeEmptied, clearEmptied, -⟩ := clear.removeOutput_ran tree removed
  obtain ⟨along, ⟨-, way⟩ | ⟨failed, -⟩⟩ :=
    clearEmptied.makeDirectories_ran treeEmptied made
  · refine ⟨removed, made, along, way, lexicalLocation_congr ?_ _⟩
    exact along.keeps.workingDirectory.trans
      (workingDirectory_removeOutput removed)
  · exact absurd rfl failed

/-- Asked for in either way, the same output directory is made. -/
theorem makeDirectories_output (clear : ClearWay files settings.outputPath)
    {path : Path} (either : path = settings.outputPath ∨
      path = settings.outputPath.join (.ofNames [])) :
    makeDirectories path (emptied files settings) =
      makeDirectories settings.outputPath (emptied files settings) := by
  rcases either with rfl | rfl
  · rfl
  · obtain ⟨name, last⟩ := clear.named
    rw [makeDirectories_eq (by simp [Path.steps_join_nil, last]),
      makeDirectories_eq (by simp [last]), Path.components_join_nil]

/-- A build that has written everything has removed older output and made the
output directory, asked for in either way. -/
theorem made_of_writeOutput (clean : settings.clean = true) {assets : Nat}
    (ran : writeOutput settings documents files = (.ok assets, after)) :
    removeOutput settings.outputPath files =
        (.ok (), emptied files settings) ∧
      ∃ path middle, (path = settings.outputPath ∨
          path = settings.outputPath.join (.ofNames [])) ∧
        makeDirectories path (emptied files settings) = (.ok (), middle) := by
  obtain ⟨left, copied, _, cleaned, assetsCopied, -, -⟩ :=
    writeOutput_succeeded ran
  rw [if_pos clean] at cleaned
  have same : left = emptied files settings := by
    rw [emptied, cleaned]
  subst same
  refine ⟨cleaned, ?_⟩
  rcases writeAssets_eq (emptied files settings) settings.staticPath
    settings.outputPath with ⟨-, reads⟩ | ⟨source, -, -, reads⟩
  · rw [reads] at assetsCopied
    obtain ⟨_, middle, made, -⟩ := bind_succeeded assetsCopied
    exact ⟨_, middle, .inl rfl, orElseFail_succeeded made⟩
  · rw [reads] at assetsCopied
    obtain ⟨_, middle, made, -⟩ := bind_succeeded assetsCopied
    exact ⟨_, middle, .inr rfl, orElseFail_succeeded made⟩

theorem ready_of_writeOutput (tree : files.IsTree)
    (clean : settings.clean = true)
    (clear : ClearWay files settings.outputPath) {assets : Nat}
    (ran : writeOutput settings documents files = (.ok assets, after)) :
    Ready files settings := by
  obtain ⟨cleaned, path, middle, either, made⟩ := made_of_writeOutput clean ran
  rw [makeDirectories_output clear either] at made
  apply ready_of_succeeded tree clear cleaned
  rw [opened, made]

/-- Only a name that is too long keeps a build from opening an output directory
whose way is clear. -/
theorem ready_iff (tree : files.IsTree)
    (clear : ClearWay files settings.outputPath) :
    Ready files settings ↔ ¬ LongWay settings.outputPath := by
  constructor
  · intro ready long
    obtain ⟨name, listed, tooLong⟩ := long
    obtain ⟨before, after, spelled⟩ := List.append_of_mem listed
    have onTheWay : before ++ [.name name] <+: settings.outputPath.components :=
      ⟨after, by rw [spelled, List.append_assoc]; rfl⟩
    have stored := ready.way onTheWay
    rw [resolve_concat_name] at stored
    have short := ready.along.tree.short stored
    rw [tooLong] at short
    cases short
  · intro short
    have removed : removeOutput settings.outputPath files =
        (_, emptied files settings) := (Prod.eta _).symm
    obtain ⟨treeEmptied, clearEmptied, succeeded | ⟨-, long⟩⟩ :=
      clear.removeOutput_ran tree removed
    · have made : makeDirectories settings.outputPath (emptied files settings) =
          (_, opened files settings) := (Prod.eta _).symm
      obtain ⟨-, ⟨opens, -⟩ | ⟨-, long⟩⟩ :=
        clearEmptied.makeDirectories_ran treeEmptied made
      · rw [succeeded] at removed
        rw [opens] at made
        exact ready_of_succeeded tree clear removed made
      · exact absurd long short
    · exact absurd long short

theorem closed_planned (ready : Ready files settings) :
    Plan.Closed (Planned files settings documents) (opened files settings)
      settings.outputPath := by
  constructor
  · intro names item inside stored
    rw [ready.location] at stored
    exact .present inside stored
  · intro names below kind planned inside lower
    exact .above planned inside lower

section

variable {source : Location} (passed : guard files settings = .ok ())
  (clean : settings.clean = true)
  (clear : ClearWay files settings.outputPath)
  (apart : AssetsApart files settings) (ready : Ready files settings)
include passed clean clear apart ready

omit clear in
theorem covers_planned
    (located : (emptied files settings).locate settings.staticPath =
      .ok source) :
    Plan.Covers (Planned files settings documents) (opened files settings)
      settings.outputPath source
      (· ∈ (emptied files settings).children source) := by
  have here : source = lexicalLocation files settings.staticPath :=
    (locate_eq_lexicalLocation located).trans
      (lexicalLocation_congr (workingDirectory_removeOutput ready.removed) _)
  have written : settings.staticPath.isEmpty = false :=
    (locate_eq_ok_iff.mp located).1
  have outside := not_prefix_of_guard clean passed (by simp) written
  rw [← here] at outside
  constructor
  · intro first rest item listed stored
    exact .asset located listed stored
  · intro first rest names listed same
    rw [ready.location] at same
    have below :
        source <+: lexicalLocation files settings.outputPath ++ names :=
      ⟨first :: rest, same⟩
    rcases List.prefix_or_prefix_of_prefix below (List.prefix_append ..) with
      ⟨between, spelled⟩ | above
    · rw [← spelled, List.append_assoc] at same
      cases between with
      | nil =>
          rw [List.append_nil] at spelled
          exact outside (spelled ▸ List.prefix_rfl)
      | cons next between =>
          obtain ⟨rfl, -⟩ := List.cons.inj (List.append_cancel_left same)
          apply apart located listed
          rw [← spelled]
          exact (List.prefix_append_right_inj source).mpr
            (List.prefix_append [first] between)
    · exact outside above

omit passed clean clear apart in
theorem listed_child {name : String}
    (found : name ∈ (emptied files settings).children source) :
    Listed (opened files settings) source
      (· ∈ (emptied files settings).children source) ([] ++ [name]) := by
  obtain ⟨item, stored⟩ :=
    Option.isSome_iff_exists.mp (mem_children_iff.mp found)
  obtain ⟨latest, there, -⟩ := ready.along.keeps.kind stored
  exact ⟨name, [], latest, rfl, found, there⟩

omit clear in
theorem maintains_copyAsset
    (located : (emptied files settings).locate settings.staticPath =
      .ok source) {name : String}
    (found : name ∈ (emptied files settings).children source)
    (earlier : FileSystem) :
    Maintains (Inside (Planned files settings documents)
        (opened files settings) settings.outputPath earlier [])
      (fun _ => ¬ Plan.Fits (Planned files settings documents))
      (Assets.copyPlace source settings.outputPath
        ((emptied files settings).items.length +
          settings.outputPath.components.length) ([] ++ [name])) := by
  have covers : Plan.Covers (Planned files settings documents) _ _ _ _ :=
    covers_planned passed clean apart ready located
  apply (copyable ready.way ready.along.tree (closed_planned ready) covers
    (Nat.lt_succ_of_le ready.along.count) earlier).maintains []
    (listed_child ready found)
  rw [List.nil_append, List.length_singleton]
  omega

/-- Once the output directory is open, a build can only fail if what is planned
does not fit. -/
theorem filling_writeOutput
    (inner : ∀ document ∈ documents,
      Path.innerNames? ⟨document.path⟩ = some document.names) :
    Establishes files
      (Filling (Planned files settings documents) (opened files settings)
        settings.outputPath (opened files settings))
      (fun _ => ¬ Plan.Fits (Planned files settings documents))
      (writeOutput settings documents) := by
  have closed : Plan.Closed (Planned files settings documents) _ _ :=
    closed_planned ready
  apply establishes_writeOutput
  · intro error after _ failed
    rw [ready.removed] at failed
    cases failed
  · intro emptied start
    rw [if_pos clean, ready.removed] at start
    cases start
    apply establishes_writeAssets
    · intro path either outcome after ran
      rw [makeDirectories_output clear either, ready.made] at ran
      obtain ⟨rfl, rfl⟩ := Prod.mk.inj ran
      exact ⟨.start ready.along.tree, nofun⟩
    · intro source located _ name found middle filling outcome after ran
      have entered : Inside (Planned files settings documents)
          (opened files settings) settings.outputPath (opened files settings)
          [] middle := by
        refine ⟨filling, ?_⟩
        rw [List.append_nil]
        exact filling.grown.directory ready.way.directory
      obtain ⟨⟨kept, -⟩, allowed⟩ := maintains_copyAsset passed clean
        apart ready located found _ entered ran
      exact ⟨kept, allowed⟩
  · intro document listed
    exact Filling.writeDocument ready.way closed (inner document listed)
      (.document listed)
  · intro base configured
    exact Filling.writeSitemap ready.way closed
      (.sitemap (by rw [configured]; rfl))

/-- Each asset has been copied when the assets have. -/
theorem copied_of_writeAssets (tree : files.IsTree) {count : Nat}
    (located : (emptied files settings).locate settings.staticPath =
      .ok source) {name : String}
    (found : name ∈ (emptied files settings).children source)
    (ran : writeAssets settings.staticPath settings.outputPath
      (emptied files settings) = (.ok count, after)) :
    Copied (opened files settings) settings.outputPath source [name] after := by
  have treeEmptied := (clear.removeOutput_ran tree ready.removed).1
  rcases writeAssets_eq (emptied files settings) settings.staticPath
    settings.outputPath with ⟨missing, -⟩ | ⟨other, leads, -, same⟩
  · obtain ⟨item, stored⟩ :=
      Option.isSome_iff_exists.mp (mem_children_iff.mp found)
    have directory := treeEmptied.parent stored
    rw [isDirectory, find?] at missing
    simp [located, directory] at missing
  · rw [located] at leads
    cases leads
    rw [same] at ran
    obtain ⟨_, middle, made, copying⟩ := bind_succeeded ran
    replace made := orElseFail_succeeded made
    rw [makeDirectories_output clear (.inr rfl), ready.made] at made
    obtain ⟨-, rfl⟩ := Prod.mk.inj made
    have covers : Plan.Covers (Planned files settings []) _ _ _ _ :=
      covers_planned passed clean apart ready located
    have start : Inside (Planned files settings []) (opened files settings)
        settings.outputPath (opened files settings) []
        (opened files settings) := by
      refine ⟨.start ready.along.tree, ?_⟩
      rw [List.append_nil]
      exact ready.way.directory
    refine copied_of_children (fun child listed earlier =>
      maintains_copyAsset passed clean apart ready located listed
        earlier) ?_ start copying name found
    intro child listed _ _ _ inside ran
    apply copied_of_copyPlace ready.way ready.along.tree (closed_planned ready)
      covers (Nat.lt_succ_of_le ready.along.count) (listed_child ready listed)
      ?_ inside ran
    rw [List.nil_append, List.length_singleton]
    omega

/-- A build that succeeds has put all that is planned. -/
theorem planned_present (tree : files.IsTree)
    (inner : ∀ document ∈ documents,
      Path.innerNames? ⟨document.path⟩ = some document.names)
    (distinct : (documents.map RenderedDocument.names).Nodup) {assets : Nat}
    (ran : writeOutput settings documents files = (.ok assets, after))
    {names : List String} {kind : ItemKind}
    (planned : Planned files settings documents names kind) :
    ∃ item, after.item?
        (lexicalLocation files settings.outputPath ++ names) = some item ∧
      item.kind = kind := by
  obtain ⟨filling, -⟩ :=
    filling_writeOutput passed clean clear apart ready inner ran
  obtain ⟨emptied, copied, written, cleaned, assetsCopied, wrote, ended⟩ :=
    writeOutput_succeeded ran
  rw [if_pos clean, ready.removed] at cleaned
  cases cleaned
  have mapped : Keeps written after := by
    split at ended
    · rw [ended]
      exact .refl written
    · rename_i base configured
      exact (extends_writeSitemap configured ended).toKeeps
  have writing := extends_writeDocuments (List.Subset.refl documents) wrote
  induction planned with
  | present inside stored =>
      exact filling.grown.kind stored
  | asset located found stored =>
      have copies := (copied_of_writeAssets passed clean clear apart ready tree
        located found assetsCopied).kept (writing.toKeeps.trans mapped)
      rw [← ready.location]
      exact copies stored
  | document listed =>
      have held := holds_of_writeDocuments inner distinct wrote _ listed
      have place : lexicalLocation copied settings.outputPath =
          lexicalLocation files settings.outputPath := by
        rw [← (writing.toKeeps.trans mapped).lexicalLocation,
          filling.location, ready.location]
      rw [← place]
      exact mapped.kind held.stored
  | sitemap configured =>
      obtain ⟨base, here⟩ := Option.isSome_iff_exists.mp configured
      simp only [here] at ended
      have held := (holds_of_writeSitemap ended).stored
      rw [lexicalLocation_sitemap, ← mapped.lexicalLocation, filling.location,
        ready.location] at held
      exact ⟨_, held, rfl⟩
  | above planned inside lower induction =>
      obtain ⟨item, stored, -⟩ := induction
      rw [← List.append_assoc] at stored
      exact ⟨.directory, filling.tree.item?_above stored lower, rfl⟩

/-- Once the output directory is open, a build succeeds just when what is
planned fits. -/
theorem writeOutput_succeeds_iff (tree : files.IsTree)
    (inner : ∀ document ∈ documents,
      Path.innerNames? ⟨document.path⟩ = some document.names)
    (distinct : (documents.map RenderedDocument.names).Nodup)
    {outcome : Except SiteError Nat}
    (ran : writeOutput settings documents files = (outcome, after)) :
    (∃ assets, outcome = .ok assets) ↔
      Plan.Fits (Planned files settings documents) := by
  obtain ⟨filling, allowed⟩ :=
    filling_writeOutput passed clean clear apart ready inner ran
  constructor
  · intro succeeded
    obtain ⟨assets, rfl⟩ := succeeded
    have present : ∀ {names kind}, Planned files settings documents names kind →
        ∃ item, after.item?
            (lexicalLocation files settings.outputPath ++ names) = some item ∧
          item.kind = kind := fun planned =>
      planned_present passed clean clear apart ready tree inner distinct ran
        planned
    constructor
    · intro names directory file
      obtain ⟨item, stored, isDirectory⟩ := present directory
      obtain ⟨other, found, isFile⟩ := present file
      rw [stored] at found
      cases found
      rw [isDirectory] at isFile
      cases isFile
    · intro names kind planned name listed
      obtain ⟨item, stored, -⟩ := present planned
      exact (filling.tree.isFileName_of_mem stored
        (List.mem_append_right _ listed)).2
  · intro fits
    cases outcome with
    | ok assets => exact ⟨assets, rfl⟩
    | error error => exact absurd fits (allowed error rfl)

end

/-- A build of a site that passes the check, with no file in the way of its
output directory and no asset above it, succeeds only if no name on the way is
too long and what is planned below the output directory fits: nothing planned
is both a file and a directory.  And then it does, if the system takes the
paths. -/
theorem run_succeeds_iff [WorkbookReader] {checked : CheckReport}
    {outcome : Except SiteError BuildReport} (tree : files.IsTree)
    (clean : settings.clean = true) (passed : guard files settings = .ok ())
    (check : check files settings = .ok checked)
    (clear : ClearWay files settings.outputPath)
    (apart : AssetsApart files settings)
    (ran : run settings files = (outcome, after)) :
    ∃ site documents, prepare files settings = .ok (site, documents) ∧
      ((∃ report, outcome = .ok report) →
        ¬ LongWay settings.outputPath ∧
          Plan.Fits (Planned files settings documents)) ∧
      (Accepted files settings documents → ¬ LongWay settings.outputPath →
        Plan.Fits (Planned files settings documents) →
          ∃ report, outcome = .ok report) := by
  obtain ⟨site, documents, prepared, -⟩ := check_eq_ok_iff.mp check
  refine ⟨site, documents, prepared, ?_⟩
  suffices succeeds : (∃ report, outcome = .ok report) ↔
      ¬ LongWay settings.outputPath ∧
        Plan.Fits (Planned files settings documents) from
    ⟨succeeds.mp, fun _ short fits => succeeds.mpr ⟨short, fits⟩⟩
  rcases run_ran ran with ⟨error, -, -, refused | ⟨-, failed⟩⟩ |
    ⟨_, _, result, -, loaded, wrote, rfl⟩
  · rw [passed] at refused
    cases refused
  · rw [prepared] at failed
    cases failed
  · rw [prepared] at loaded
    cases loaded
    obtain ⟨-, rendered, distinct⟩ := prepare_eq_ok.mp prepared
    have inner := Site.Renders.inner_of_mem rendered
    have reported : (∃ report, (result.map fun assets =>
          (⟨site.pages.length, documents.length, assets,
            settings.outputPath⟩ : BuildReport)) = .ok report) ↔
        ∃ assets, result = .ok assets := by
      cases result with
      | ok assets => exact ⟨fun _ => ⟨assets, rfl⟩, fun _ => ⟨_, rfl⟩⟩
      | error error => exact ⟨nofun, nofun⟩
    rw [reported]
    by_cases ready : Ready files settings
    · rw [writeOutput_succeeds_iff passed clean clear apart ready tree inner
        distinct wrote]
      exact (and_iff_right ((ready_iff tree clear).mp ready)).symm
    · constructor
      · intro succeeded
        obtain ⟨assets, rfl⟩ := succeeded
        exact absurd (ready_of_writeOutput tree clean clear wrote) ready
      · intro expected
        exact absurd ((ready_iff tree clear).mpr expected.1) ready

/-! ## A document above another one -/

def clashingFiles : FileSystem :=
  siteFiles (pagesWorkbook [("index", "/a"), ("second", "/a/b.html")])

theorem isTree_clashingFiles : clashingFiles.IsTree := by
  apply isTree_of_items rfl
  decide +kernel

theorem clearWay_clashingFiles :
    ClearWay clashingFiles plainSettings.outputPath := by
  constructor
  · exact ⟨"www", by decide +kernel⟩
  · have directories : ∀ passed ∈ plainSettings.outputPath.components.inits,
        clashingFiles.item? (resolve clashingFiles.workingDirectory passed) =
          some .directory := by
      decide +kernel
    intro passed content listed stored
    rw [directories passed ((List.mem_inits ..).mpr listed)] at stored
    cases stored
  · decide +kernel

theorem assetsApart_clashingFiles :
    AssetsApart clashingFiles plainSettings := by
  intro source first located
  have missing : ((emptied clashingFiles plainSettings).locate
      plainSettings.staticPath).toOption = none := by
    decide +kernel
  rw [located] at missing
  cases missing

theorem not_longWay_plainSettings : ¬ LongWay plainSettings.outputPath := by
  intro long
  obtain ⟨name, listed, tooLong⟩ := long
  have short : ∀ component ∈ plainSettings.outputPath.components,
      component = .name "site" ∨ component = .name "www" := by
    decide +kernel
  rcases short _ listed with same | same
  · cases same
    revert tooLong
    decide +kernel
  · cases same
    revert tooLong
    decide +kernel

theorem accepted_clashingFiles {site : Site}
    {documents : List RenderedDocument}
    (prepared : prepare clashingFiles plainSettings = .ok (site, documents)) :
    Accepted clashingFiles plainSettings documents := by
  constructor
  · intro place located
    have accepted : ∀ place ∈
        (clashingFiles.locate plainSettings.specPath).toOption,
          clashingFiles.acceptsBelow plainSettings.specPath place = true := by
      decide +kernel
    exact accepted place (by rw [located]; rfl)
  · intro source located
    have missing : (clashingFiles.locate plainSettings.staticPath).toOption =
        none := by
      decide +kernel
    rw [located] at missing
    cases missing
  · decide +kernel
  · have accepted : ∀ rendered ∈
        (prepare clashingFiles plainSettings).toOption,
          ∀ document ∈ rendered.2,
            accepts (documentFile plainSettings.outputPath document) =
              true := by
      decide +kernel
    exact accepted (site, documents) (by rw [prepared]; rfl)
  · intro configured
    cases configured

/-- What the two documents need does not fit. -/
theorem not_fits_clashingFiles :
    clashingFiles.IsTree ∧ plainSettings.clean = true ∧
      guard clashingFiles plainSettings = .ok () ∧
      check clashingFiles plainSettings = .ok ⟨2, 2, ["en"]⟩ ∧
      ClearWay clashingFiles plainSettings.outputPath ∧
      AssetsApart clashingFiles plainSettings ∧
      ∃ site documents,
        prepare clashingFiles plainSettings = .ok (site, documents) ∧
          Accepted clashingFiles plainSettings documents ∧
          ¬ Plan.Fits (Planned clashingFiles plainSettings documents) := by
  have failed : (run plainSettings clashingFiles).1 =
      .error (.write ⟨"site/www/a/b.html"⟩) := by
    decide +kernel
  have guarded : guard clashingFiles plainSettings = .ok () := by
    decide +kernel
  have checked : check clashingFiles plainSettings = .ok ⟨2, 2, ["en"]⟩ := by
    decide +kernel
  obtain ⟨site, documents, prepared, -, succeeds⟩ :=
    run_succeeds_iff isTree_clashingFiles rfl guarded checked
      clearWay_clashingFiles assetsApart_clashingFiles (Prod.eta _).symm
  refine ⟨isTree_clashingFiles, rfl, guarded, checked, clearWay_clashingFiles,
    assetsApart_clashingFiles, site, documents, prepared,
    accepted_clashingFiles prepared, ?_⟩
  intro fits
  obtain ⟨report, succeeded⟩ := succeeds (accepted_clashingFiles prepared)
    not_longWay_plainSettings fits
  rw [failed] at succeeded
  cases succeeded

/-- The site passes the guard and the check, and its output path is a
directory; but the build fails after older output is removed. -/
theorem run_clashingFiles :
    guard clashingFiles plainSettings = .ok () ∧
      clashingFiles.isDirectory plainSettings.outputPath = true ∧
      check clashingFiles plainSettings = .ok ⟨2, 2, ["en"]⟩ ∧
      (run plainSettings clashingFiles).1 =
        .error (.write ⟨"site/www/a/b.html"⟩) ∧
      clashingFiles.item? ["site", "www", "old.html"] =
        some (.file (.text "old")) ∧
      (run plainSettings clashingFiles).2.item? ["site", "www", "old.html"] =
        none := by
  decide +kernel

end WorkbookSite.Build

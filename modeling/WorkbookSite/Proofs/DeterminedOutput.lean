import WorkbookSite.Proofs.RepeatedBuilds
import WorkbookSite.Proofs.SurvivingDocuments
import WorkbookSite.Proofs.WorkingDirectories

/-!
# Output that is determined by its inputs

A cleaning build reads the workbooks and the assets, and what it leaves below
its output directory depends on nothing else.  This also holds if the working
directory is removed with older output: then all paths are absolute, and the
working directory does not matter.
-/

namespace WorkbookSite

open FileSystem CleanGuard FileAction

namespace Path

variable {path : Path}

theorem components_of_getLast? {name : String}
    (last : path.steps.getLast? = some (.name name)) :
    ∃ above, path.components = above ++ [.name name] := by
  obtain ⟨before, spelled⟩ := List.getLast?_eq_some_iff.mp last
  rw [components, spelled]
  cases before with
  | nil => exact ⟨[], rfl⟩
  | cons first before =>
      refine ⟨first :: before.filter (· != .current), ?_⟩
      simp

/-- A relative path that leads to where it starts names nothing. -/
theorem IsPlain.unnamed {files : FileSystem} (plain : path.IsPlain)
    (relative : path.isAbsolute = false)
    (same : lexicalLocation files path = files.workingDirectory)
    (name : String) : path.steps.getLast? ≠ some (.name name) := by
  intro last
  obtain ⟨above, spelled⟩ := components_of_getLast? last
  have onward : files.workingDirectory <+:
      resolve files.workingDirectory above := by
    apply CleanGuard.prefix_resolve
    intro component listed
    have within : component ∈ path.components := by
      rw [spelled]
      exact List.mem_append_left _ listed
    refine ⟨?_, ne_of_mem_of_not_mem within plain⟩
    rintro rfl
    rw [isAbsolute_of_root within] at relative
    cases relative
  have lengths := onward.length_le
  rw [lexicalLocation, spelled, resolve_concat_name] at same
  replace same := congrArg List.length same
  rw [List.length_append, List.length_singleton] at same
  omega

end Path

theorem FileSystem.IsTree.startingAt {files : FileSystem} {home : Location}
    (tree : files.IsTree) (directory : files.item? home = some .directory) :
    (files.startingAt home).IsTree :=
  ⟨directory, tree.named, tree.short, tree.parent⟩

namespace Build

variable {files after : FileSystem} {settings : BuildSettings}

theorem run_eq_ok_iff [WorkbookReader] {report : BuildReport} :
    run settings files = (.ok report, after) ↔
      ∃ site documents assets, guard files settings = .ok () ∧
        prepare files settings = .ok (site, documents) ∧
        writeOutput settings documents files = (.ok assets, after) ∧
        report = ⟨site.pages.length, documents.length, assets,
          settings.outputPath⟩ := by
  constructor
  · intro ran
    rcases run_ran ran with ⟨error, failed, -⟩ |
      ⟨site, documents, result, passed, prepared, wrote, same⟩
    · cases failed
    · cases result with
      | error error => cases same
      | ok assets =>
          cases same
          exact ⟨site, documents, assets, passed, prepared, wrote, rfl⟩
  · intro succeeded
    obtain ⟨site, documents, assets, passed, prepared, wrote, rfl⟩ := succeeded
    rw [run, get_bind_eq, passed, prepared]
    exact bind_of_succeeded wrote

theorem written_of_prepare [WorkbookReader] {site : Site}
    {documents : List RenderedDocument}
    (prepared : prepare files settings = .ok (site, documents)) :
    settings.specPath.isEmpty = false := by
  obtain ⟨location, located, -⟩ :=
    load_eq_ok.mp (prepare_eq_ok.mp prepared).1
  exact (locate_eq_ok_iff.mp located).1

/-- If a build removes the directory that relative paths start from, its own
paths are absolute. -/
theorem isAnchored_of_below {emptied : FileSystem} (tree : files.IsTree)
    (clean : settings.clean = true) (plain : settings.IsPlain)
    (passed : guard files settings = .ok ())
    (removed : removeOutput settings.outputPath files = (.ok (), emptied))
    (below : lexicalLocation files settings.outputPath <+:
      files.workingDirectory) : settings.IsAnchored := by
  have anchored : ∀ {path : Path}, path.IsPlain → path ∈
      [settings.siteDirectory, settings.specPath, settings.staticPath] →
        path.IsAnchored := by
    intro path here guarded
    by_contra neither
    rw [Path.IsAnchored, not_or, Bool.not_eq_true, Bool.not_eq_true] at neither
    exact not_prefix_of_guard clean passed guarded neither.2
      (below.trans (here.prefix_lexicalLocation neither.1))
  refine ⟨anchored plain.site (by simp), anchored plain.specPath (by simp),
    anchored plain.staticPath (by simp), ?_⟩
  by_contra relative
  rw [Bool.not_eq_true] at relative
  have above : files.workingDirectory <+:
      lexicalLocation files settings.outputPath :=
    plain.outputPath.prefix_lexicalLocation relative
  have same : lexicalLocation files settings.outputPath =
      files.workingDirectory := below.eq_of_length_le above.length_le
  obtain ⟨result, ran, ⟨-, allowed⟩ | ⟨failed, -⟩⟩ :=
    Build.removeOutput_ran removed
  · have directory : files.item?
        (lexicalLocation files settings.outputPath) = some .directory := by
      rw [same]
      exact tree.home
    apply allowed
    have located := plain.outputPath.locate tree
      (written_of_guard clean passed) directory
    apply removeTree_unnamed located directory
      (plain.outputPath.unnamed relative same) ?_ ran
    intro last
    exact Path.isPlain_iff_steps.mp plain.outputPath
      (List.mem_of_getLast? last)
  · cases failed

/-- What a build has left is determined by what it has read. -/
structure Determined [WorkbookReader] (settings : BuildSettings)
    (files after : FileSystem) (output : Location) (site : Site)
    (documents : List RenderedDocument) : Prop where
  located : after.locate settings.outputPath = .ok output
  prepared : prepare files settings = .ok (site, documents)
  /-- Below the output directory is the output tree and nothing else. -/
  left : ∀ names,
    after.item? (output ++ names) = outputItem? files settings documents names
  /-- What the output directory held before makes no difference. -/
  elsewhere : ∀ other : FileSystem, other.IsTree →
    other.removeAt output = files.removeAt output →
      (∀ content, other.item? output ≠ some (.file content)) →
        ∃ again later, run settings other = (.ok again, later) ∧
          ∀ names, later.item? (output ++ names) =
            after.item? (output ++ names)
  /-- The same build succeeds again and changes nothing. -/
  repeated : ∃ again later, run settings after = (.ok again, later) ∧
    ∀ place, later.item? place = after.item? place

section

variable [WorkbookReader] {report : BuildReport} (tree : files.IsTree)
  (clean : settings.clean = true) (plain : settings.IsPlain)
  (outsideSpec : ¬ files.LiesIn settings.outputPath settings.specPath)
  (outsideStatic : ¬ files.LiesIn settings.outputPath settings.staticPath)
  (ran : run settings files = (.ok report, after))
include tree clean plain outsideSpec outsideStatic ran

theorem determined_of_apart
    (apart : ¬ lexicalLocation files settings.outputPath <+:
      files.workingDirectory) :
    ∃ output site documents,
      Determined settings files after output site documents := by
  obtain ⟨site, documents, assets, passed, prepared, wrote, -⟩ :=
    run_eq_ok_iff.mp ran
  have build :=
    plainBuild_of_writeOutput tree clean plain outsideStatic apart passed wrote
  obtain ⟨loaded, rendered, distinct⟩ := prepare_eq_ok.mp prepared
  have inner := Site.Renders.inner_of_mem rendered
  have written := written_of_prepare prepared
  obtain ⟨treeAfter, opened⟩ := build.opened_after inner wrote
  have settled := build.settled_after inner wrote
  have repeats : ∀ {other}, other.IsTree → SameInputs settings files other →
      ∃ again count later, run settings other = (.ok again, later) ∧
        writeOutput settings documents other = (.ok count, later) ∧
        ∀ names,
          later.item? (lexicalLocation files settings.outputPath ++ names) =
            after.item?
              (lexicalLocation files settings.outputPath ++ names) := by
    intro other treeOther same
    obtain ⟨count, later, wroteAgain, found⟩ := build.writeOutput_of_sameInputs
      same treeOther rendered distinct wrote
    refine ⟨_, count, later, run_eq_ok_iff.mpr ⟨site, documents, count,
      ?_, ?_, wroteAgain, rfl⟩, wroteAgain, found⟩
    · rw [guard_congr same.settled]
      exact passed
    · exact build.prepare_of_sameInputs same treeOther outsideSpec prepared
  refine ⟨lexicalLocation files settings.outputPath, site, documents, ?_,
    prepared, ?_, ?_, ?_⟩
  · have directory := opened.directory
    rw [← lexicalLocation_congr settled]
    exact plain.outputPath.locate treeAfter build.written directory
  · exact build.item?_of_writeOutput rendered distinct wrote
  · intro other treeOther same free
    have inputs :=
      build.sameInputs_of_removeAt (build.spec_separate outsideSpec written)
        same free
    obtain ⟨again, count, later, ranAgain, -, found⟩ := repeats treeOther inputs
    exact ⟨again, later, ranAgain, found⟩
  · obtain ⟨again, count, later, ranAgain, wroteAgain, found⟩ := repeats
      treeAfter (build.sameInputs_after inner wrote outsideSpec written)
    exact ⟨again, later, ranAgain,
      build.item?_again inner wrote wroteAgain found⟩

end

section

variable (anchored : settings.IsAnchored) (home : Location)
include anchored

theorem outputItem?_startingAt (documents : List RenderedDocument)
    (names : List String) :
    outputItem? (files.startingAt home) settings documents names =
      outputItem? files settings documents names := by
  cases names with
  | nil => rfl
  | cons name names =>
      have same : assetItem? (files.startingAt home) settings (name :: names) =
          assetItem? files settings (name :: names) := by
        rw [assetItem?, assetItem?, locate_startingAt anchored.static]
        rfl
      rw [outputItem?, outputItem?, same]

theorem liesIn_startingAt {outer : Path} (outerAnchored : outer.IsAnchored) :
    (files.startingAt home).LiesIn settings.outputPath outer ↔
      files.LiesIn settings.outputPath outer := by
  rw [LiesIn, LiesIn]
  apply and_congr_right
  intro written
  have absolute : outer.isAbsolute = true :=
    outerAnchored.resolve_right (by simp [written])
  rw [lexicalLocation_startingAt files home absolute,
    lexicalLocation_startingAt files home anchored.output]

/-- What is determined from another working directory is determined. -/
theorem Determined.of_startingAt [WorkbookReader] {output : Location}
    {site : Site}
    {documents : List RenderedDocument}
    (directory : ∀ other : FileSystem, other.item? home = some .directory)
    (determined : Determined settings (files.startingAt home)
      (after.startingAt home) output site documents) :
    Determined settings files after output site documents := by
  have moved := run_anchored anchored
  constructor
  · rw [← locate_startingAt (.inl anchored.output) after home]
    exact determined.located
  · rw [← prepare_startingAt anchored files home]
    exact determined.prepared
  · intro names
    rw [← outputItem?_startingAt anchored home]
    exact determined.left names
  · intro other tree same free
    obtain ⟨again, later, ran, found⟩ := determined.elsewhere
      (other.startingAt home) (tree.startingAt (directory other))
      (congrArg (fun left => left.startingAt home) same) free
    rw [moved] at ran
    obtain ⟨outcome, rfl⟩ := Prod.mk.inj ran
    exact ⟨again, _, Prod.ext outcome rfl, found⟩
  · obtain ⟨again, later, ran, found⟩ := determined.repeated
    rw [moved] at ran
    obtain ⟨outcome, rfl⟩ := Prod.mk.inj ran
    exact ⟨again, _, Prod.ext outcome rfl, found⟩

end

/-- What a cleaning build with plain paths leaves below its output directory,
which lies neither in the spec nor in the static directory, is determined by
its inputs alone. -/
theorem run_determined [WorkbookReader] {report : BuildReport}
    (tree : files.IsTree) (clean : settings.clean = true)
    (plain : settings.IsPlain)
    (outsideSpec : ¬ files.LiesIn settings.outputPath settings.specPath)
    (outsideStatic : ¬ files.LiesIn settings.outputPath settings.staticPath)
    (ran : run settings files = (.ok report, after)) :
    ∃ output site documents,
      Determined settings files after output site documents := by
  by_cases apart : lexicalLocation files settings.outputPath <+:
      files.workingDirectory
  · obtain ⟨site, documents, assets, passed, prepared, wrote, -⟩ :=
      run_eq_ok_iff.mp ran
    obtain ⟨removed, -⟩ := made_of_writeOutput clean wrote
    have anchored := isAnchored_of_below tree clean plain passed removed apart
    have moved := run_anchored anchored files []
    rw [ran] at moved
    have rootKept : ¬ lexicalLocation (files.startingAt [])
        settings.outputPath <+: (files.startingAt []).workingDirectory := by
      rw [lexicalLocation_startingAt files [] anchored.output]
      intro root
      have outside : ¬ lexicalLocation files settings.outputPath <+:
          lexicalLocation files settings.specPath :=
        not_prefix_of_guard clean passed (by simp) (written_of_prepare prepared)
      rw [List.prefix_nil.mp root] at outside
      exact outside List.nil_prefix
    rw [← liesIn_startingAt anchored [] anchored.spec] at outsideSpec
    rw [← liesIn_startingAt anchored [] anchored.static] at outsideStatic
    obtain ⟨output, site, documents, determined⟩ :=
      determined_of_apart (tree.startingAt (item?_root files)) clean plain
        outsideSpec outsideStatic moved rootKept
    exact ⟨output, site, documents,
      determined.of_startingAt anchored [] item?_root⟩
  · exact determined_of_apart tree clean plain outsideSpec outsideStatic ran
      apart

/-! ## Documents over assets -/

def layeredSettings : BuildSettings :=
  { sitemapSettings with staticDirectory := ⟨"static"⟩ }

/-- A site with older output, where a document and the sitemap are to take the
places of assets and a document comes into a directory of assets. -/
def layeredFiles : FileSystem where
  items :=
    (siteFiles (pagesWorkbook
      [("index", "/index.html"), ("about", "/docs/about/index.html")])).items ++
    [(["site", "static"], .directory),
     (["site", "static", "index.html"], .file (.text "asset")),
     (["site", "static", "sitemap.xml"], .file (.text "asset")),
     (["site", "static", "docs"], .directory),
     (["site", "static", "docs", "style.css"], .file (.text "asset"))]

theorem isTree_layeredFiles : layeredFiles.IsTree := by
  apply isTree_of_items rfl
  decide +kernel

theorem isPlain_layeredSettings : layeredSettings.IsPlain := by
  constructor <;> decide +kernel

theorem run_layeredFiles :
    run layeredSettings layeredFiles =
      (.ok ⟨2, 2, 3, ⟨"site/www"⟩⟩, (run layeredSettings layeredFiles).2) :=
  ran_of_outcome (Outcome.eq_ok_of_toOption (by decide +kernel))

theorem run_determined_layeredFiles :
    layeredFiles.IsTree ∧ layeredSettings.clean = true ∧
      layeredSettings.IsPlain ∧
      ¬ layeredFiles.LiesIn layeredSettings.outputPath
        layeredSettings.specPath ∧
      ¬ layeredFiles.LiesIn layeredSettings.outputPath
        layeredSettings.staticPath ∧
      run layeredSettings layeredFiles =
        (.ok ⟨2, 2, 3, ⟨"site/www"⟩⟩,
          (run layeredSettings layeredFiles).2) ∧
      ∃ site documents, Determined layeredSettings layeredFiles
        (run layeredSettings layeredFiles).2 ["site", "www"] site
          documents := by
  have outsideSpec : ¬ layeredFiles.LiesIn layeredSettings.outputPath
      layeredSettings.specPath := by
    decide +kernel
  have outsideStatic : ¬ layeredFiles.LiesIn layeredSettings.outputPath
      layeredSettings.staticPath := by
    decide +kernel
  refine ⟨isTree_layeredFiles, rfl, isPlain_layeredSettings, outsideSpec,
    outsideStatic, run_layeredFiles, ?_⟩
  obtain ⟨output, site, documents, determined⟩ :=
    run_determined isTree_layeredFiles rfl isPlain_layeredSettings outsideSpec
      outsideStatic run_layeredFiles
  have here : (run layeredSettings layeredFiles).2.locate
      layeredSettings.outputPath = .ok ["site", "www"] :=
    Outcome.eq_ok_of_toOption (by decide +kernel)
  rw [determined.located] at here
  cases here
  exact ⟨site, documents, determined⟩

end Build

end WorkbookSite

import WorkbookSite.Proofs.ConfinedBuild
import WorkbookSite.Proofs.OutputTrees

/-!
# Builds that are repeated

A build reads what lies apart from its output directory, and changes nothing of
it.  So it succeeds again wherever the same workbooks and assets are found, and
leaves the same output tree; the files after the build are such a place.
-/

namespace WorkbookSite

open FileSystem CleanGuard FileAction

namespace FileSystem

variable {files : FileSystem} {location place : Location}

theorem isPrefixOf?_eq_none (other : ¬ location <+: place) :
    location.isPrefixOf? place = none := by
  by_contra found
  obtain ⟨rest, split⟩ := Option.ne_none_iff_exists'.mp found
  exact other ⟨rest, (isPrefixOf?_eq_some_iff.mp split).symm⟩

/-- What is below a location does not depend on items that are elsewhere. -/
theorem below_filter {keep : Location × Item → Bool}
    (kept : ∀ entry, location <+: entry.1 → keep entry = true) :
    below { files with items := files.items.filter keep } location =
      files.below location := by
  rw [below, below, List.filterMap_filter]
  apply List.filterMap_congr
  intro entry _
  obtain ⟨place, item⟩ := entry
  split
  · rfl
  · rename_i removed
    simp only
    rw [isPrefixOf?_eq_none fun above => removed (kept _ above)]

theorem below_put (other : ¬ location <+: place) (item : Item) :
    (files.put place item).below location = files.below location := by
  rw [← @below_filter files location (fun entry => entry.1 != place), put]
  · rw [below, below]
    simp only
    rw [List.filterMap_append, List.filterMap_cons_none,
      ← List.filterMap_append, List.takeWhile_append_dropWhile]
    rw [isPrefixOf?_eq_none other]
  · intro entry above
    rw [bne_iff_ne]
    rintro rfl
    exact other above

theorem below_of_removed {after : FileSystem}
    (separate : Build.Separate place location)
    (removed : after = files.removeAt place ∨
      after = files.removeBelow place) :
    after.below location = files.below location := by
  have kept : ∀ other, location <+: other → place.isPrefixOf other = false := by
    intro other above
    apply Bool.eq_false_iff.mpr
    intro gone
    rcases List.prefix_or_prefix_of_prefix
      (List.isPrefixOf_iff_prefix.mp gone) above with before | before
    · exact separate.1 before
    · exact separate.2 before
  rcases removed with rfl | rfl
  · apply below_filter
    intro entry above
    simp [kept _ above]
  · apply below_filter
    intro entry above
    simp [kept _ above]

end FileSystem

namespace Build

variable {files other after : FileSystem} {settings : BuildSettings}
  {documents : List RenderedDocument} {names : List String}

/-- A site is built from the same in both: what lies apart from the output
directory is the same, and no file is in the way. -/
structure SameInputs (settings : BuildSettings)
    (files other : FileSystem) : Prop where
  settled : other.workingDirectory = files.workingDirectory
  workbooks : other.below (lexicalLocation files settings.specPath) =
    files.below (lexicalLocation files settings.specPath)
  same : ∀ ⦃place⦄,
    Separate (lexicalLocation files settings.outputPath) place →
      other.item? place = files.item? place
  free : ∀ ⦃above content⦄,
    above <+: lexicalLocation files settings.outputPath →
      other.item? above ≠ some (.file content)

theorem guard_congr (settled : other.workingDirectory = files.workingDirectory)
    (settings : BuildSettings) :
    guard other settings = guard files settings := by
  have endangers : CleanGuard.endangers other settings.outputPath =
      CleanGuard.endangers files settings.outputPath := by
    funext path
    rw [CleanGuard.endangers, CleanGuard.endangers]
    simp only [location?_eq, lexicalLocation_congr settled]
  rw [guard, guard, CleanGuard.check, CleanGuard.check,
    CleanGuard.endangered?, CleanGuard.endangered?, endangers]

theorem load_eq_ok [WorkbookReader] {site : Site} :
    load files settings = .ok site ↔
      ∃ location, files.locate settings.specPath = .ok location ∧
        files.item? location = some .directory ∧
        Site.addFiles {} (Site.workbookFiles files settings.specPath location
          (some settings.staticPath)) = .ok site := by
  rw [load, Site.load]
  cases located : files.locate settings.specPath with
  | error refusal => simp
  | ok location =>
      simp only
      cases directory : files.isDirectoryAt location with
      | true =>
          rw [if_pos rfl]
          rw [isDirectoryAt, beq_iff_eq] at directory
          simp [directory]
      | false =>
          rw [if_neg Bool.false_ne_true]
          rw [isDirectoryAt, beq_eq_false_iff_ne] at directory
          simp [directory]

namespace PlainBuild

variable (build : PlainBuild files settings)
  (same : SameInputs settings files other) (tree : other.IsTree)

include build in
theorem spec_separate (outside : ¬ files.LiesIn settings.outputPath
      settings.specPath)
    (written : settings.specPath.isEmpty = false) :
    Separate (lexicalLocation files settings.outputPath)
      (lexicalLocation files settings.specPath) :=
  ⟨not_prefix_of_guard build.clean build.passed (by simp) written,
    fun above => outside ⟨written, above⟩⟩

include build in
/-- A directory that is above the output directory is in no file's place. -/
theorem free_above {above : Location} {content : Content}
    (higher : above <+: lexicalLocation files settings.outputPath)
    (outside : ¬ lexicalLocation files settings.outputPath <+: above) :
    files.item? above ≠ some (.file content) := by
  intro stored
  rw [← build.item?_emptied outside] at stored
  obtain ⟨latest, found⟩ := build.ready.along.keeps.file stored
  have directory := build.ready.way.directory
  rw [build.ready.location] at directory
  rw [build.ready.along.tree.item?_prefix directory higher] at found
  cases found

include build in
/-- Where all but the output directory is the same, so are the inputs. -/
theorem sameInputs_of_removeAt
    (separate : Separate (lexicalLocation files settings.outputPath)
      (lexicalLocation files settings.specPath))
    (equal : other.removeAt (lexicalLocation files settings.outputPath) =
      files.removeAt (lexicalLocation files settings.outputPath))
    (free : ∀ content,
      other.item? (lexicalLocation files settings.outputPath) ≠
        some (.file content)) :
    SameInputs settings files other := by
  have outside : ∀ {place},
      ¬ lexicalLocation files settings.outputPath <+: place →
        other.item? place = files.item? place := by
    intro place elsewhere
    by_cases root : place = []
    · rw [root, item?_root, item?_root]
    · have found := congrArg (fun left => left.item? place) equal
      simp only [item?_removeAt root, if_neg elsewhere] at found
      exact found
  constructor
  · have same := congrArg FileSystem.workingDirectory equal
    exact same
  · have left : (other.removeAt _).below _ = other.below _ :=
      below_of_removed separate (.inl rfl)
    rw [← left, equal, below_of_removed separate (.inl rfl)]
  · intro place apart
    exact outside apart.1
  · intro above content higher
    by_cases below : lexicalLocation files settings.outputPath <+: above
    · rw [higher.eq_of_length_le below.length_le]
      exact free content
    · rw [outside below]
      exact build.free_above higher below

include build same tree

theorem of_sameInputs : PlainBuild other settings := by
  have place := lexicalLocation_congr same.settled settings.outputPath
  have clear : ClearWay other settings.outputPath := by
    refine ⟨build.clear.named, ?_, ?_⟩
    · intro passed content listed stored
      rcases build.plain.outputPath.passed_cases other.workingDirectory listed
        with rfl | above
      · rw [resolve, tree.home] at stored
        cases stored
      · rw [← lexicalLocation, place] at above
        exact same.free above stored
    · rw [place, same.settled]
      exact build.clear.apart
  constructor
  · exact tree
  · exact build.clean
  · exact build.plain
  · rw [LiesIn, place, lexicalLocation_congr same.settled]
    exact build.outside
  · rw [guard_congr same.settled]
    exact build.passed
  · exact clear
  · exact (ready_iff tree clear).mpr
      ((ready_iff build.tree build.clear).mp build.ready)

theorem assetItem?_congr (inside : names ≠ []) :
    assetItem? other settings names = assetItem? files settings names := by
  rw [assetItem?_eq tree build.plain.staticPath inside,
    assetItem?_eq build.tree build.plain.staticPath inside]
  split
  · rfl
  · rename_i written
    rw [lexicalLocation_congr same.settled]
    exact same.same ((build.static_separate
      (Bool.eq_false_iff.mpr written)).append names)

theorem outputItem?_congr :
    outputItem? other settings documents names =
      outputItem? files settings documents names := by
  cases names with
  | nil => rfl
  | cons name names =>
      rw [outputItem?, outputItem?,
        build.assetItem?_congr same tree (List.cons_ne_nil name names)]

theorem planned_of_sameInputs {kind : ItemKind}
    (planned : Planned other settings documents names kind) :
    Planned files settings documents names kind := by
  have again := build.of_sameInputs same tree
  induction planned with
  | present inside stored =>
      rw [again.item?_opened_below inside] at stored
      cases stored
  | asset located _ stored =>
      have found := again.assetItem?_of_opened located (by simp) stored
      rw [build.assetItem?_congr same tree (by simp)] at found
      obtain ⟨source, here, listed, there⟩ := build.asset_reached found
      exact .asset here listed there
  | document listed => exact .document listed
  | sitemap configured => exact .sitemap configured
  | above _ inside lower induction => exact induction.above inside lower

theorem prepare_of_sameInputs [WorkbookReader] {site : Site}
    (outside : ¬ files.LiesIn settings.outputPath settings.specPath)
    (prepared : prepare files settings = .ok (site, documents)) :
    prepare other settings = .ok (site, documents) := by
  rw [prepare_eq_ok] at prepared ⊢
  refine ⟨?_, prepared.2⟩
  obtain ⟨location, located, directory, loaded⟩ := load_eq_ok.mp prepared.1
  have written := (locate_eq_ok_iff.mp located).1
  have here := locate_eq_lexicalLocation located
  subst here
  have separate := build.spec_separate outside written
  have there : other.item? (lexicalLocation other settings.specPath) =
      some .directory := by
    rw [lexicalLocation_congr same.settled, same.same separate]
    exact directory
  have located := build.plain.specPath.locate tree written there
  rw [lexicalLocation_congr same.settled] at located there
  refine load_eq_ok.mpr ⟨_, located, there, ?_⟩
  rw [Site.workbookFiles, same.workbooks]
  exact loaded

/-- Where a build succeeds, it succeeds again from the same inputs, and leaves
the same output tree. -/
theorem writeOutput_of_sameInputs {variants : List (Page × String)}
    {assets : Nat}
    (rendered : List.Forall₂ (Site.Renders settings.lang) variants documents)
    (distinct : (documents.map RenderedDocument.names).Nodup)
    (wrote : writeOutput settings documents files = (.ok assets, after)) :
    ∃ count later,
      writeOutput settings documents other = (.ok count, later) ∧
        ∀ names,
          later.item? (lexicalLocation files settings.outputPath ++ names) =
            after.item?
              (lexicalLocation files settings.outputPath ++ names) := by
  have inner := Site.Renders.inner_of_mem rendered
  have again := build.of_sameInputs same tree
  have fits : Plan.Fits (Planned files settings documents) :=
    (writeOutput_succeeds_iff build.passed build.clean build.clear
      build.assetsApart build.ready build.tree inner distinct wrote).mp
        ⟨assets, rfl⟩
  have fitsAgain : Plan.Fits (Planned other settings documents) := by
    constructor
    · intro names directory file
      exact fits.single (build.planned_of_sameInputs same tree directory)
        (build.planned_of_sameInputs same tree file)
    · intro names kind planned
      exact fits.short (build.planned_of_sameInputs same tree planned)
  rcases ran : writeOutput settings documents other with ⟨outcome, later⟩
  obtain ⟨count, rfl⟩ := (writeOutput_succeeds_iff again.passed again.clean
    again.clear again.assetsApart again.ready tree inner distinct ran).mpr
      fitsAgain
  refine ⟨count, later, rfl, ?_⟩
  intro names
  have left := again.item?_of_writeOutput rendered distinct ran names
  rw [lexicalLocation_congr same.settled,
    build.outputItem?_congr same tree] at left
  rw [left, build.item?_of_writeOutput rendered distinct wrote]

end PlainBuild

/-! ## The files after a build -/

theorem Separate.symm {first second : Location}
    (separate : Separate first second) : Separate second first :=
  ⟨separate.2, separate.1⟩

/-- What is below a location is as it was. -/
structure Undisturbed (start : FileSystem) (location : Location)
    (files : FileSystem) : Prop where
  settled : files.workingDirectory = start.workingDirectory
  named : files.Named
  below : files.below location = start.below location

namespace Undisturbed

variable {start : FileSystem} {location : Location} {output : Path}

theorem put (undisturbed : Undisturbed start location files)
    {place : Location} {name : String} (item : Item)
    (proper : Path.IsFileName name)
    (elsewhere : ¬ location <+: place ++ [name]) :
    Undisturbed start location (files.put (place ++ [name]) item) :=
  ⟨undisturbed.settled, undisturbed.named.put proper,
    (below_put elsewhere item).trans undisturbed.below⟩

theorem writable (plain : output.IsPlain)
    (separate : Separate (lexicalLocation start output) location) :
    Writable (Undisturbed start location) start.workingDirectory output
      (fun _ => True) := by
  constructor
  · intro files undisturbed
    exact undisturbed.settled
  · intro files passed name undisturbed listed _
    apply undisturbed.put
    · exact Path.isFileName_of_mem_components (name_mem_of_passed listed)
    · rw [← resolve_concat_name]
      intro below
      rcases plain.passed_cases start.workingDirectory listed with none | above
      · simp at none
      · exact separate.2 (below.trans above)
  · intro files names name undisturbed proper _
    apply undisturbed.put _ proper
    rw [List.append_assoc]
    exact (separate.symm.append _).1
  · intro files names name content undisturbed _ proper _
    apply undisturbed.put _ proper
    rw [List.append_assoc]
    exact (separate.symm.append _).1

theorem removeOutput {outcome : Except SiteError Unit} (named : start.Named)
    (separate : Separate (lexicalLocation start output) location)
    (ran : removeOutput output start = (outcome, after)) :
    Undisturbed start location after := by
  obtain ⟨result, ran, -⟩ := Build.removeOutput_ran ran
  have confined := Confined.removeTree named ran
  refine ⟨confined.settled, confined.named, ?_⟩
  rcases removeTree_ran ran with ⟨rfl, -⟩ | ⟨removed, located, -, emptied⟩
  · rfl
  · rw [locate_eq_lexicalLocation located] at emptied
    exact below_of_removed separate emptied

theorem of_writeOutput {outcome : Except SiteError Nat}
    (named : files.Named) (plain : settings.outputPath.IsPlain)
    (inner : ∀ document ∈ documents,
      Path.innerNames? ⟨document.path⟩ = some document.names)
    (separate : Separate (lexicalLocation files settings.outputPath) location)
    (ran : writeOutput settings documents files = (outcome, after)) :
    Undisturbed files location after := by
  have writable : Writable (Undisturbed files location) _ _ _ :=
    writable plain separate
  exact (writable.writeOutput rfl (fun _ => trivial)
    (fun _ => Undisturbed.named)
    (fun document listed => ⟨_, inner document listed⟩) ⟨rfl, named, rfl⟩
    (fun _ _ => removeOutput named separate) ran).1

end Undisturbed

namespace PlainBuild

variable {assets : Nat} (build : PlainBuild files settings)
  (inner : ∀ document ∈ documents,
    Path.innerNames? ⟨document.path⟩ = some document.names)
  (wrote : writeOutput settings documents files = (.ok assets, after))
include build inner wrote

theorem opened_after : after.IsTree ∧ after.OpenTo settings.outputPath := by
  have filling := build.filling inner wrote
  exact ⟨filling.tree, build.ready.way.keeps filling.grown⟩

theorem settled_after : after.workingDirectory = files.workingDirectory :=
  (confined_writeOutput build.tree.named inner wrote).settled

/-- What lies apart from the output directory stays as it is. -/
theorem item?_after {place : Location}
    (separate : Separate (lexicalLocation files settings.outputPath) place) :
    after.item? place = files.item? place := by
  by_contra changed
  rcases (confined_writeOutput build.tree.named inner wrote).changed changed
    with below | ⟨absent, -, passed, listed, rfl⟩
  · exact separate.1 below
  · rcases build.plain.outputPath.passed_cases files.workingDirectory listed
      with rfl | above
    · rw [resolve, build.tree.home] at absent
      cases absent
    · exact separate.2 above

/-- The files after a build are what the same site can be built from. -/
theorem sameInputs_after
    (outside : ¬ files.LiesIn settings.outputPath settings.specPath)
    (written : settings.specPath.isEmpty = false) :
    SameInputs settings files after := by
  obtain ⟨tree, opened⟩ := build.opened_after inner wrote
  have settled := build.settled_after inner wrote
  constructor
  · exact settled
  · exact (Undisturbed.of_writeOutput build.tree.named build.plain.outputPath
      inner (build.spec_separate outside written) wrote).below
  · intro place separate
    exact build.item?_after inner wrote separate
  · intro above content higher stored
    have directory := opened.directory
    rw [lexicalLocation_congr settled] at directory
    rw [tree.item?_prefix directory higher] at stored
    cases stored

/-- What is written again is what is there already. -/
theorem item?_again {count : Nat} {later : FileSystem}
    (wroteAgain : writeOutput settings documents after = (.ok count, later))
    (below : ∀ names,
      later.item? (lexicalLocation files settings.outputPath ++ names) =
        after.item? (lexicalLocation files settings.outputPath ++ names))
    (place : Location) : later.item? place = after.item? place := by
  obtain ⟨tree, opened⟩ := build.opened_after inner wrote
  by_contra changed
  rcases (confined_writeOutput tree.named inner wroteAgain).changed changed
    with ⟨names, rfl⟩ | ⟨absent, -, passed, listed, rfl⟩
  · rw [lexicalLocation_congr (build.settled_after inner wrote)] at changed
    exact changed (below names)
  · rw [opened listed] at absent
    cases absent

end PlainBuild

end Build

end WorkbookSite

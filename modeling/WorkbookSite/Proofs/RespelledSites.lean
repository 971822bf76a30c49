import Mathlib.Data.List.Forall2
import WorkbookSite.Proofs.FileTrees
import WorkbookSite.Site.Build

/-!
# Sites whose directories are spelled differently

The workbooks in the static directory are left out if the static path says that
this directory lies in the spec directory: if its components are those of the
spec path, and names.  Nothing else in the way the directories are spelled has
an effect on a site, except on the paths that errors name.
-/

namespace WorkbookSite

open FileSystem CleanGuard

/-- The error without the file that it names. -/
def SheetError.withoutPath : SheetError → SheetError
  | .opening _ message => .opening ⟨""⟩ message
  | .reading sheet message => .reading sheet message

/-- The error without the directories and files that it names. -/
def SiteError.withoutPath : SiteError → SiteError
  | .missingSpecDirectory _ => .missingSpecDirectory ⟨""⟩
  | .unreadable _ => .unreadable ⟨""⟩
  | .workbook unread => .workbook ⟨⟨""⟩, unread.cause.withoutPath⟩
  | .layout _ cause => .layout ⟨""⟩ cause
  | .unsafeOutput _ _ => .unsafeOutput ⟨""⟩ ⟨""⟩
  | .write _ => .write ⟨""⟩
  | .render page locale cause => .render page locale cause
  | .invalidPath page locale path => .invalidPath page locale path
  | .duplicateOutput path first second => .duplicateOutput path first second

/-- Both succeed with results that are the same, or both fail with errors that
differ at most in the directories and files they name. -/
inductive SameOutcome {α : Type} (same : α → α → Prop) :
    Except SiteError α → Except SiteError α → Prop where
  | ok {one other : α} (alike : same one other) :
      SameOutcome same (.ok one) (.ok other)
  | error {one other : SiteError}
      (alike : one.withoutPath = other.withoutPath) :
      SameOutcome same (.error one) (.error other)

theorem SameOutcome.bind {α β : Type} {same : α → α → Prop}
    {alike : β → β → Prop} {first second : Except SiteError α}
    {next other : α → Except SiteError β}
    (start : SameOutcome same first second)
    (rest : ∀ one two, same one two →
      SameOutcome alike (next one) (other two)) :
    SameOutcome alike (first >>= next) (second >>= other) := by
  cases start with
  | ok here => exact rest _ _ here
  | error here => exact .error here

/-- The components of the static path are those of the spec path, and names. -/
def BuildSettings.NamesStaticBelowSpec (settings : BuildSettings) : Prop :=
  ∃ names : List String, settings.staticPath.components =
    settings.specPath.components ++ names.map .name

theorem mapM_eq_some_iff_map {α β : Type} {read : α → Option β}
    {write : β → α}
    (inverse : ∀ item value, read item = some value ↔ item = write value)
    {items : List α} {values : List β} :
    items.mapM read = some values ↔ items = values.map write := by
  induction items generalizing values with
  | nil => simp [eq_comm]
  | cons item items induction =>
      rw [List.mapM_cons]
      constructor
      · intro found
        obtain ⟨value, here, later⟩ := Option.bind_eq_some_iff.mp found
        obtain ⟨others, rest, same⟩ := Option.bind_eq_some_iff.mp later
        cases same
        rw [(inverse _ _).mp here, induction.mp rest]
        rfl
      · intro spelled
        cases values with
        | nil => cases spelled
        | cons value values =>
            obtain ⟨rfl, same⟩ := List.cons.inj spelled
            simp [(inverse _ _).mpr rfl, induction.mpr same]

theorem Path.namesBelow?_eq_some_iff {path base : Path}
    {names : List String} :
    path.namesBelow? base = some names ↔
      path.components = base.components ++ names.map .name := by
  rw [namesBelow?, Option.bind_eq_bind, Option.bind_eq_some_iff]
  constructor
  · rintro ⟨below, split, read⟩
    rw [isPrefixOf?_eq_some_iff.mp split,
      (@mapM_eq_some_iff_map _ _ _ Component.name
        (fun item _ => by cases item <;> simp) below names).mp read]
  · intro spelled
    exact ⟨_, isPrefixOf?_eq_some_iff.mpr spelled,
      (mapM_eq_some_iff_map fun item _ => by cases item <;> simp).mpr rfl⟩

namespace Site

theorem components_placeBelow {directory : Path} {names : List String}
    (proper : ∀ name ∈ names, Path.IsFileName name) :
    (placeBelow directory names).components =
      directory.components ++ names.map .name := by
  rw [placeBelow]
  induction names generalizing directory with
  | nil => simp
  | cons name names induction =>
      obtain ⟨here, others⟩ := List.forall_mem_cons.mp proper
      have single : (⟨name⟩ : Path) = .ofNames [name] := by
        simp [Path.ofNames]
      rw [List.foldl_cons, induction others, single,
        Path.components_join_ofNames (by simpa using here), List.append_assoc]
      rfl

theorem extension?_placeBelow {directory other : Path} {names : List String}
    (named : names ≠ []) (proper : ∀ name ∈ names, Path.IsFileName name) :
    (placeBelow directory names).extension? =
      (placeBelow other names).extension? := by
  have last : ∀ base : Path, (placeBelow base names).fileName? =
      some (names.getLast named) := by
    intro base
    rw [Path.fileName?, components_placeBelow proper, List.getLast?_append,
      List.getLast?_map, List.getLast?_eq_some_getLast named]
    rfl
  rw [Path.extension?, Path.extension?, last, last]

/-- A workbook is left out if it is below the static directory, and the static
path says that this is in the spec directory. -/
theorem isExcluded_iff (files : FileSystem) {spec static : Path}
    {names : List String} :
    isExcluded spec (some static) names = true ↔
      (∃ below : List String, static.components =
        spec.components ++ below.map .name) ∧
      lexicalLocation files static <+: lexicalLocation files spec ++ names := by
  have leads : ∀ {below : List String},
      static.components = spec.components ++ below.map .name →
        lexicalLocation files static = lexicalLocation files spec ++ below := by
    intro below spelled
    rw [lexicalLocation, spelled, resolve_append, resolve_names,
      lexicalLocation]
  rw [isExcluded, Option.bind_some]
  cases found : static.namesBelow? spec with
  | none =>
      simp only [Bool.false_eq_true, false_iff, not_and]
      intro named
      obtain ⟨below, spelled⟩ := named
      rw [Path.namesBelow?_eq_some_iff.mpr spelled] at found
      cases found
  | some below =>
      have spelled := Path.namesBelow?_eq_some_iff.mp found
      simp only
      rw [List.isPrefixOf_iff_prefix, leads spelled,
        List.prefix_append_right_inj]
      exact ⟨fun within => ⟨⟨below, spelled⟩, within⟩, And.right⟩

theorem isFileName_of_below {files : FileSystem} (tree : files.IsTree)
    {location : Location} {names : List String} {item : Item}
    (listed : (names, item) ∈ files.below location) :
    names ≠ [] ∧ ∀ name ∈ names, Path.IsFileName name := by
  obtain ⟨stored, named⟩ := mem_below_iff.mp listed
  refine ⟨named, ?_⟩
  intro name within
  obtain ⟨found, here⟩ :=
    Option.isSome_iff_exists.mp (isSome_item?_of_mem stored)
  exact (tree.isFileName_of_mem here (List.mem_append_right _ within)).1

/-- The file below the spec directory has the name of a workbook, and not that
of a backup. -/
structure IsCandidate (files : FileSystem) (spec : Path) (location : Location)
    (names : List String) (content : Content) : Prop where
  listed : (names, .file content) ∈ files.below location
  workbook : isWorkbookPath (placeBelow spec names) = true
  noBackup : names.getLast?.any isBackupName = false

/-- The candidates are loaded, unless they are left out. -/
theorem mem_workbookFiles_iff {files : FileSystem} (tree : files.IsTree)
    {spec static : Path} {location : Location} {names : List String}
    {content : Content} (proper : ∀ name ∈ names, Path.IsFileName name) :
    (placeBelow spec names, content) ∈
        workbookFiles files spec location (some static) ↔
      IsCandidate files spec location names content ∧
        isExcluded spec (some static) names = false := by
  rw [workbookFiles, List.mem_filterMap]
  constructor
  · rintro ⟨⟨others, item⟩, listed, kept⟩
    cases item with
    | directory => cases kept
    | file other =>
        simp only [Option.ite_none_left_eq_some, Option.some.injEq,
          Prod.mk.injEq] at kept
        obtain ⟨allowed, same, rfl⟩ := kept
        have components := congrArg Path.components same
        rw [components_placeBelow proper, components_placeBelow
          (isFileName_of_below tree listed).2] at components
        obtain rfl : others = names :=
          List.map_injective_iff.mpr (fun _ _ => Component.name.inj)
            (List.append_cancel_left components)
        simp only [Bool.or_eq_true, not_or, Bool.not_eq_true,
          Bool.not_eq_false'] at allowed
        exact ⟨⟨listed, allowed.1.2, allowed.2⟩, allowed.1.1⟩
  · rintro ⟨candidate, kept⟩
    exact ⟨(names, .file content), candidate.listed,
      by simp [candidate.workbook, candidate.noBackup, kept]⟩

/-- The same workbook under two paths. -/
def SameFile (one other : Path × Content) : Prop :=
  one.1.extension? = other.1.extension? ∧ one.2 = other.2

theorem forall₂_filterMap {α β : Type} {same : β → β → Prop}
    {first second : α → Option β} {items : List α}
    (each : ∀ item ∈ items, Option.Rel same (first item) (second item)) :
    List.Forall₂ same (items.filterMap first) (items.filterMap second) := by
  induction items with
  | nil => exact .nil
  | cons item items induction =>
      obtain ⟨here, others⟩ := List.forall_mem_cons.mp each
      have rest := induction others
      rw [List.filterMap_cons, List.filterMap_cons]
      generalize first item = one at here
      generalize second item = two at here
      cases here with
      | some alike => exact .cons alike rest
      | none => exact rest

theorem rel_ite {α : Type} {same : α → α → Prop} {one other : α}
    {first second : Prop} [Decidable first] [Decidable second]
    (alike : first ↔ second) (here : same one other) :
    Option.Rel same (if first then none else some one)
      (if second then none else some other) := by
  by_cases holds : first
  · rw [if_pos holds, if_pos (alike.mp holds)]
    exact .none
  · rw [if_neg holds, if_neg fun also => holds (alike.mpr also)]
    exact .some here

/-- Respelled directories give the same workbooks. -/
theorem workbookFiles_alike {files : FileSystem} (tree : files.IsTree)
    {spec other static different : Path} (location : Location)
    (same : ∀ ⦃names content⦄, IsCandidate files spec location names content →
      isExcluded spec (some static) names =
        isExcluded other (some different) names) :
    List.Forall₂ SameFile (workbookFiles files spec location (some static))
      (workbookFiles files other location (some different)) := by
  apply forall₂_filterMap
  rintro ⟨names, item⟩ listed
  obtain ⟨named, proper⟩ := isFileName_of_below tree listed
  have extension := @extension?_placeBelow spec other _ named proper
  cases item with
  | directory => exact .none
  | file content =>
      have either : isWorkbookPath (placeBelow other names) =
          isWorkbookPath (placeBelow spec names) := by
        rw [isWorkbookPath, isWorkbookPath, extension]
      apply rel_ite _ ⟨extension, rfl⟩
      rw [either]
      cases workbook : isWorkbookPath (placeBelow spec names) with
      | false => simp
      | true =>
          cases backup : names.getLast?.any isBackupName with
          | true => simp
          | false => rw [same ⟨listed, workbook, backup⟩]

/-- The pages of a site without the workbooks they were read from. -/
def plainPages (site : Site) : List Page := site.pages.map (·.page)

/-- Files with the same extension and content are read alike. -/
theorem sheets_alike [WorkbookReader] {path other : Path} {content : Content}
    (extension : path.extension? = other.extension?) :
    (∃ sheets, WorkbookReader.sheets path content = .ok sheets ∧
      WorkbookReader.sheets other content = .ok sheets) ∨
    ∃ one two, WorkbookReader.sheets path content = .error one ∧
      WorkbookReader.sheets other content = .error two ∧
      one.withoutPath = two.withoutPath := by
  rw [WorkbookReader.sheets, WorkbookReader.sheets, WorkbookReader.openFile,
    WorkbookReader.openFile, WorkbookReader.opened_congr content extension]
  cases WorkbookReader.opened other content with
  | error message => exact .inr ⟨_, _, rfl, rfl, rfl⟩
  | ok workbook =>
      have whole : ∀ place, (Except.mapError (SheetError.opening place)
          (.ok workbook) >>= OpenedWorkbook.sheets) = workbook.sheets :=
        fun _ => rfl
      rw [whole, whole]
      cases workbook.sheets with
      | error cause => exact .inr ⟨cause, cause, rfl, rfl, rfl⟩
      | ok sheets => exact .inl ⟨sheets, rfl, rfl⟩

theorem addFiles_alike [WorkbookReader] {first second : List (Path × Content)}
    (alike : List.Forall₂ SameFile first second) {site other : Site}
    (same : site.plainPages = other.plainPages) :
    SameOutcome (fun one two => one.plainPages = two.plainPages)
      (site.addFiles first) (other.addFiles second) := by
  induction alike generalizing site other with
  | nil => exact .ok same
  | @cons one two first second here _ induction =>
      obtain ⟨path, content⟩ := one
      obtain ⟨path', content'⟩ := two
      obtain ⟨extension, rfl⟩ := here
      rw [addFiles, addFiles]
      rcases @sheets_alike _ path path' content extension with
        ⟨sheets, here, there⟩ | ⟨one, two, here, there, alike⟩
      · rw [here, there]
        simp only [addSource, addSheets]
        rcases parseSheets sheets with ⟨pages, fault⟩
        cases fault with
        | none =>
            apply induction
            simp only [plainPages, List.map_append, List.map_map] at same ⊢
            rw [same]
            rfl
        | some cause => exact .error rfl
      · rw [here, there]
        apply SameOutcome.error
        rw [SiteError.withoutPath, SiteError.withoutPath, alike]

theorem variants_eq (site : Site) :
    site.variants = site.plainPages.flatMap fun page =>
      page.locales.map (page, ·) := by
  rw [variants, plainPages, List.flatMap_map]

theorem locales_eq (site : Site) :
    site.locales = site.plainPages.foldl (fun locales page =>
      page.locales.foldl (fun locales locale =>
        if locale ∈ locales then locales else locales ++ [locale])
        locales) [] := by
  rw [locales, plainPages, List.foldl_map]

end Site

namespace Build

variable {files : FileSystem} {settings other : BuildSettings}

/-- The settings differ at most in how the spec, the static and the output
directory are spelled: both paths of each lead to the same place. -/
structure Respelled (files : FileSystem) (settings other : BuildSettings) :
    Prop where
  site : other.siteDirectory = settings.siteDirectory
  clean : other.clean = settings.clean
  lang : other.lang = settings.lang
  sitemap : other.sitemapBase = settings.sitemapBase
  spec : ∃ place, files.locate settings.specPath = .ok place ∧
    files.locate other.specPath = .ok place
  static : ∃ place, files.locate settings.staticPath = .ok place ∧
    files.locate other.staticPath = .ok place
  output : ∃ place, files.locate settings.outputPath = .ok place ∧
    files.locate other.outputPath = .ok place

/-- Both static paths say that the static directory is in the spec directory,
or neither does, or no workbook in the spec directory is below it. -/
def SameExclusion (files : FileSystem) (settings other : BuildSettings) :
    Prop :=
  (settings.NamesStaticBelowSpec ↔ other.NamesStaticBelowSpec) ∨
    ∀ ⦃location names content⦄,
      files.locate settings.specPath = .ok location →
        Site.IsCandidate files settings.specPath location names content →
          ¬ lexicalLocation files settings.staticPath <+: location ++ names

namespace Respelled

variable (respelled : Respelled files settings other)
include respelled

/-- The guard compares places, and refuses both or none. -/
theorem guard : SameOutcome Eq (guard files settings) (guard files other) := by
  have same : ∀ {one two : Path}, (∃ place, files.locate one = .ok place ∧
      files.locate two = .ok place) →
        CleanGuard.location? files one = CleanGuard.location? files two := by
    rintro one two ⟨place, located, leads⟩
    rw [CleanGuard.location?, CleanGuard.location?, located, leads]
  have output := same respelled.output
  have spec := same respelled.spec
  have static := same respelled.static
  rw [Build.guard, Build.guard, respelled.clean]
  split
  · simp only [CleanGuard.check, CleanGuard.endangered?, List.find?_cons,
      List.find?_nil, CleanGuard.endangers, output, spec, static,
      respelled.site]
    split
    · exact .error rfl
    · split
      · exact .error rfl
      · split
        · exact .error rfl
        · exact .ok rfl
  · exact .ok rfl

variable (same : SameExclusion files settings other)
include same

theorem isExcluded_eq {location : Location} {names : List String}
    {content : Content}
    (located : files.locate settings.specPath = .ok location)
    (candidate : Site.IsCandidate files settings.specPath location names
      content) :
    Site.isExcluded settings.specPath (some settings.staticPath) names =
      Site.isExcluded other.specPath (some other.staticPath) names := by
  obtain ⟨place, specLocated, specLeads⟩ := respelled.spec
  obtain ⟨static, staticLocated, staticLeads⟩ := respelled.static
  have spec : lexicalLocation files other.specPath =
      lexicalLocation files settings.specPath := by
    rw [← locate_eq_lexicalLocation specLocated,
      ← locate_eq_lexicalLocation specLeads]
  have assets : lexicalLocation files other.staticPath =
      lexicalLocation files settings.staticPath := by
    rw [← locate_eq_lexicalLocation staticLocated,
      ← locate_eq_lexicalLocation staticLeads]
  rw [Bool.eq_iff_iff, Site.isExcluded_iff files, Site.isExcluded_iff files,
    spec, assets]
  rcases same with named | apart
  · exact and_congr_left' named
  · have outside := apart located candidate
    rw [locate_eq_lexicalLocation located] at outside
    simp only [outside, and_false]

variable (tree : files.IsTree)
include tree

theorem load [WorkbookReader] :
    SameOutcome (fun one two => one.plainPages = two.plainPages)
      (load files settings) (load files other) := by
  obtain ⟨place, located, leads⟩ := respelled.spec
  rw [Build.load, Build.load, Site.load, Site.load, located, leads]
  simp only
  split
  · exact Site.addFiles_alike (Site.workbookFiles_alike tree place
      fun _ _ => respelled.isExcluded_eq same located) rfl
  · exact .error rfl

theorem prepare [WorkbookReader] :
    SameOutcome (fun one two => one.1.plainPages = two.1.plainPages ∧
        one.2 = two.2)
      (prepare files settings) (prepare files other) := by
  apply SameOutcome.bind (respelled.load same tree)
  intro site again alike
  rw [Site.render, Site.render, Site.variants_eq, Site.variants_eq, alike,
    respelled.lang]
  cases Site.renderLocales settings.lang [] _ with
  | error error => exact .error rfl
  | ok documents => exact .ok ⟨alike, rfl⟩

/-- A check of respelled settings gives the same report, or an error that
differs in paths only. -/
theorem check [WorkbookReader] :
    SameOutcome Eq (check files settings) (check files other) := by
  apply SameOutcome.bind (respelled.prepare same tree)
  rintro ⟨site, documents⟩ ⟨again, others⟩ ⟨alike, rfl⟩
  apply SameOutcome.ok
  have count := congrArg List.length alike
  simp only [Site.plainPages, List.length_map] at count
  rw [Site.locales_eq, Site.locales_eq, alike, count]

end Respelled

end Build

end WorkbookSite

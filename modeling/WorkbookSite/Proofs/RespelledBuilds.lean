import Mathlib.Data.List.Infix
import WorkbookSite.Proofs.CheckedBuild
import WorkbookSite.Proofs.RemadeDirectories
import WorkbookSite.Proofs.RespelledSites

/-!
# Builds whose directories are spelled differently

Two builds that spell their directories differently leave the same files, if
their static paths say the same of the spec directory, the assets are not copied
into their own copies, and no path depends on older output that is removed.
-/

namespace WorkbookSite.Build

open FileSystem CleanGuard FileAction

variable {files after : FileSystem} {settings other : BuildSettings}
  {documents : List RenderedDocument} {output : Path} {place : Location}

theorem reopens_of_locate (tree : files.IsTree)
    (located : files.locate output = .ok place)
    (directory : files.item? place = some .directory) :
    Reopens files output files place :=
  have leads := leadsTo_of_locate tree located directory
  ⟨leads.makeDirectories, leads.join_nil.makeDirectories, leads.location⟩

/-- When the output directory is removed, the output path still leads there:
it ends with a name, neither it nor the static path passes anything that is
removed, and relative paths do not start there. -/
structure Removable (files : FileSystem) (settings : BuildSettings) :
    Prop where
  named : ∃ name, settings.outputPath.steps.getLast? = some (.name name)
  apart : ¬ lexicalLocation files settings.outputPath <+:
    files.workingDirectory
  output : ∀ ⦃passed⦄, passed <+: settings.outputPath.components →
    lexicalLocation files settings.outputPath <+:
        resolve files.workingDirectory passed →
      resolve files.workingDirectory passed =
        lexicalLocation files settings.outputPath
  static : ∀ ⦃passed⦄, passed <+: settings.staticPath.components →
    ¬ lexicalLocation files settings.outputPath <+:
      resolve files.workingDirectory passed

/-- On the way of the output path, only the output directory is missing. -/
theorem passes_of_removed (tree : files.IsTree)
    (removable : Removable files settings)
    (located : files.locate settings.outputPath = .ok place)
    (directory : files.item? place = some .directory)
    ⦃passed : List Component⦄
    (listed : passed <+: settings.outputPath.components) :
    (files.removeAt place).item? (resolve files.workingDirectory passed) =
        some .directory ∨
      resolve files.workingDirectory passed = place := by
  have leads := leadsTo_of_locate tree located directory
  have onTheWay := removable.output listed
  rw [← locate_eq_lexicalLocation located] at onTheWay
  rcases item?_of_removed (.inl rfl) (resolve files.workingDirectory passed)
    with same | ⟨-, below⟩
  · exact .inl (same.trans (leads.way listed))
  · exact .inr (onTheWay below)

theorem reopens_of_removed (tree : files.IsTree)
    (removable : Removable files settings)
    (located : files.locate settings.outputPath = .ok place)
    (directory : files.item? place = some .directory) :
    Reopens (files.removeAt place) settings.outputPath
      ((files.removeAt place).put place .directory) place := by
  have here := locate_eq_lexicalLocation located
  have passes := passes_of_removed tree removable located directory
  obtain ⟨last, named⟩ := removable.named
  have apart := removable.apart
  rw [← here] at apart
  obtain ⟨above, name, rfl⟩ : ∃ above name, place = above ++ [name] := by
    rcases List.eq_nil_or_concat place with rfl | ⟨above, name, rfl⟩
    · exact absurd List.nil_prefix apart
    · exact ⟨above, name, List.concat_eq_append⟩
  have remade : makeAlong files.workingDirectory
      settings.outputPath.components (files.removeAt (above ++ [name])) =
        (.ok (),
          (files.removeAt (above ++ [name])).put (above ++ [name])
            .directory) := by
    apply makeAlong_of_missing (tree.removeAt apart)
    · rw [item?_removeAt (by simp), if_pos List.prefix_rfl]
    · exact tree.short directory
    · rcases passes List.nil_prefix with start | same
      · exact start
      · rw [← same] at apart
        exact absurd List.prefix_rfl apart
    · exact passes
    · exact here.symm
  constructor
  · rw [makeDirectories_eq (by simp [named])]
    exact remade
  · rw [makeDirectories_eq (by simp [Path.steps_join_nil, named]),
      Path.components_join_nil]
    exact remade
  · exact here.symm

theorem locate_static_of_removed (removable : Removable files settings)
    (located : files.locate settings.outputPath = .ok place) :
    (files.removeAt place).locate settings.staticPath =
      files.locate settings.staticPath := by
  refine locate_congr (Eq.refl files.workingDirectory) ?_
  intro passed listed
  have apart := removable.static listed
  rw [← locate_eq_lexicalLocation located] at apart
  exact (item?_of_removed (.inl rfl) _).resolve_right fun gone => apart gone.2

theorem removeOutput_of_located {name : String}
    (named : output.steps.getLast? = some (.name name))
    (located : files.locate output = .ok place) :
    removeOutput output files =
      if files.isDirectoryAt place then (.ok (), files.removeAt place)
      else (.error (.write output), files) := by
  rw [removeOutput, removeTree, get_bind_eq, located]
  cases directory : files.isDirectoryAt place with
  | true =>
      simp only [directory, named]
      rfl
  | false =>
      simp only [directory]
      rfl

/-- Nothing is written below an output path that leads to a file. -/
theorem writeContents_of_file (tree : files.IsTree) {content : Content}
    (located : files.locate settings.outputPath = .ok place)
    (stored : files.item? place = some (.file content)) :
    (writeContents settings documents files).2 = files := by
  have refused : ∀ path, path.steps = settings.outputPath.steps →
      makeDirectories path files = (.error .obstructed, files) :=
    fun path same => makeDirectories_of_file tree located stored same
  have failed : ∃ error, writeAssets settings.staticPath settings.outputPath
      files = (.error error, files) := by
    rcases writeAssets_eq files settings.staticPath settings.outputPath with
      ⟨-, same⟩ | ⟨source, -, -, same⟩
    · exact ⟨_, same.trans
        (bind_of_failed (orElseFail_of_failed (refused _ rfl)))⟩
    · have again := refused (settings.outputPath.join (.ofNames []))
        settings.outputPath.steps_join_nil
      exact ⟨_, same.trans (bind_of_failed (orElseFail_of_failed again))⟩
  obtain ⟨error, stopped⟩ := failed
  rw [writeContents, bind_of_failed stopped]

/-- The files that a build finds when it begins to write. -/
def cleared (files : FileSystem) (settings : BuildSettings) : FileSystem :=
  if settings.clean then (removeOutput settings.outputPath files).2 else files

/-- The copy of the assets comes to an end, and no path depends on older output
that is removed. -/
structure KeepsClear (files : FileSystem) (settings : BuildSettings) :
    Prop where
  ends : ∀ ⦃source⦄, files.locate settings.staticPath = .ok source →
    CopyEnds (cleared files settings) source settings.outputPath
  removable : settings.clean = true → Removable files settings

theorem cleared_of_removable (clean : settings.clean = true)
    (removable : Removable files settings)
    (located : files.locate settings.outputPath = .ok place)
    (directory : files.item? place = some .directory) :
    cleared files settings = files.removeAt place := by
  obtain ⟨last, named⟩ := removable.named
  have there : files.isDirectoryAt place = true := by
    rw [isDirectoryAt, directory, beq_self_eq_true]
  rw [cleared, if_pos clean, removeOutput_of_located named located,
    if_pos there]

/-- Nothing is in the way of a build that writes outside its assets. -/
theorem keepsClear_of_outside (tree : files.IsTree) {source : Location}
    (located : files.locate settings.outputPath = .ok place)
    (directory : files.item? place = some .directory)
    (static : files.locate settings.staticPath = .ok source)
    (assets : files.item? source = some .directory)
    (outside : source <+: place → source = place)
    (removable : settings.clean = true → Removable files settings) :
    KeepsClear files settings := by
  refine ⟨?_, removable⟩
  intro leads same
  rw [static] at same
  cases same
  cases clean : settings.clean with
  | false =>
      rw [cleared, clean, if_neg Bool.false_ne_true]
      exact copyEnds_of_outside tree
        (reopens_of_locate tree located directory) assets outside
  | true =>
      have safe := removable clean
      have apart := safe.apart
      have kept := safe.static (List.prefix_refl _)
      rw [← lexicalLocation, ← locate_eq_lexicalLocation located,
        ← locate_eq_lexicalLocation static] at kept
      rw [← locate_eq_lexicalLocation located] at apart
      rw [cleared_of_removable clean safe located directory]
      apply copyEnds_of_outside (tree.removeAt apart)
        (reopens_of_removed tree safe located directory) _ outside
      exact ((item?_of_removed (.inl rfl) source).resolve_right
        fun gone => kept gone.2).trans assets

/-- A build writes its output unless it stops before. -/
theorem after_run_eq [WorkbookReader] (files : FileSystem)
    (settings : BuildSettings) :
    (run settings files).2 =
      match guard files settings, prepare files settings with
      | .ok (), .ok (_, documents) => (writeOutput settings documents files).2
      | _, _ => files := by
  rcases run_ran (Prod.eta (run settings files)).symm with
    ⟨error, -, unchanged, refused | ⟨passed, failed⟩⟩ |
    ⟨site, documents, result, passed, prepared, wrote, -⟩
  · rw [unchanged, refused]
  · rw [unchanged, passed, failed]
  · rw [passed, prepared]
    exact (congrArg Prod.snd wrote).symm

namespace Respelled

variable (respelled : Respelled files settings other) (tree : files.IsTree)
  (clear : KeepsClear files settings) (others : KeepsClear files other)
include respelled tree clear others

section

variable (inner : ∀ document ∈ documents,
  Path.innerNames? ⟨document.path⟩ = some document.names)
include inner

theorem writeOutput_of_unclean (unclean : settings.clean = false) :
    (Build.writeOutput settings documents files).2 =
      (Build.writeOutput other documents files).2 := by
  obtain ⟨place, located, leads⟩ := respelled.output
  obtain ⟨source, static, same⟩ := respelled.static
  have ends := clear.ends static
  have finishes := others.ends same
  rw [cleared, unclean, if_neg Bool.false_ne_true] at ends
  rw [cleared, respelled.clean, unclean, if_neg Bool.false_ne_true] at finishes
  rw [writeOutput_eq, writeOutput_eq, respelled.clean, unclean,
    if_neg Bool.false_ne_true, if_neg Bool.false_ne_true]
  obtain ⟨item, stored⟩ :=
    Option.isSome_iff_exists.mp (isSome_of_locate tree located)
  cases item with
  | directory =>
      exact (alike_writeContents tree (reopens_of_locate tree located stored)
        (reopens_of_locate tree leads stored) static same ends finishes
        respelled.sitemap inner).after
  | file content =>
      rw [writeContents_of_file tree located stored,
        writeContents_of_file tree leads stored]

theorem writeOutput_of_clean (clean : settings.clean = true) :
    (Build.writeOutput settings documents files).2 =
      (Build.writeOutput other documents files).2 := by
  obtain ⟨place, located, leads⟩ := respelled.output
  obtain ⟨source, static, same⟩ := respelled.static
  have ends := clear.ends static
  have finishes := others.ends same
  have cleans := respelled.clean.trans clean
  have one := clear.removable clean
  have two := others.removable cleans
  obtain ⟨last, named⟩ := one.named
  obtain ⟨ending, ended⟩ := two.named
  have removed := removeOutput_of_located named located
  have again := removeOutput_of_located ended leads
  rw [writeOutput_eq, writeOutput_eq, if_pos clean, if_pos cleans]
  obtain ⟨item, stored⟩ :=
    Option.isSome_iff_exists.mp (isSome_of_locate tree located)
  cases item with
  | directory =>
      have there : files.isDirectoryAt place = true := by
        rw [isDirectoryAt, stored, beq_self_eq_true]
      have apart := one.apart
      rw [← locate_eq_lexicalLocation located] at apart
      rw [cleared_of_removable clean one located stored] at ends
      rw [cleared_of_removable cleans two leads stored] at finishes
      rw [if_pos there] at removed again
      rw [bind_of_succeeded removed, bind_of_succeeded again]
      exact (alike_writeContents (tree.removeAt apart)
        (reopens_of_removed tree one located stored)
        (reopens_of_removed tree two leads stored)
        ((locate_static_of_removed one located).trans static)
        ((locate_static_of_removed two leads).trans same)
        ends finishes respelled.sitemap inner).after
  | file content =>
      have absent : ¬ files.isDirectoryAt place = true := by
        simp [isDirectoryAt, stored]
      rw [if_neg absent] at removed again
      rw [bind_of_failed removed, bind_of_failed again]

end

variable (same : SameExclusion files settings other)
include same

/-- A build of respelled settings leaves the same files. -/
theorem after_run [WorkbookReader] :
    (run settings files).2 = (run other files).2 := by
  have guarded := respelled.guard
  have prepared := respelled.prepare same tree
  rw [after_run_eq, after_run_eq]
  generalize Build.guard files settings = one at guarded
  generalize Build.guard files other = two at guarded
  cases guarded with
  | error alike => rfl
  | ok alike =>
      cases loaded : Build.prepare files settings with
      | error error =>
          rw [loaded] at prepared
          cases again : Build.prepare files other with
          | error error => rfl
          | ok reloaded =>
              rw [again] at prepared
              cases prepared
      | ok found =>
          rw [loaded] at prepared
          cases again : Build.prepare files other with
          | error error =>
              rw [again] at prepared
              cases prepared
          | ok reloaded =>
              rw [again] at prepared
              cases prepared with
              | ok alike =>
                  simp only [← alike.2]
                  have inner :=
                    Site.Renders.inner_of_mem (prepare_eq_ok.mp loaded).2.1
                  cases clean : settings.clean with
                  | false =>
                      exact respelled.writeOutput_of_unclean tree clear others
                        inner clean
                  | true =>
                      exact respelled.writeOutput_of_clean tree clear others
                        inner clean

end Respelled

/-- The candidates are loaded but for those in the static directory, if the
static path says that it is in the spec directory.  Where this says the same of
both settings, checks give the same, and builds leave the same files if nothing
is in their way. -/
theorem respelled_outcome [WorkbookReader] (tree : files.IsTree)
    (respelled : Respelled files settings other) :
    (∀ location names content,
      files.locate settings.specPath = .ok location →
      (∀ name ∈ names, Path.IsFileName name) →
        ((Site.placeBelow settings.specPath names, content) ∈
            Site.workbookFiles files settings.specPath location
              (some settings.staticPath) ↔
          Site.IsCandidate files settings.specPath location names content ∧
            ¬ (settings.NamesStaticBelowSpec ∧
              lexicalLocation files settings.staticPath <+:
                location ++ names))) ∧
      (SameExclusion files settings other →
        SameOutcome Eq (check files settings) (check files other) ∧
          (KeepsClear files settings → KeepsClear files other →
            (run settings files).2 = (run other files).2)) := by
  constructor
  · intro location names content located proper
    rw [Site.mem_workbookFiles_iff tree proper, ← Bool.not_eq_true,
      Site.isExcluded_iff files, ← locate_eq_lexicalLocation located]
    rfl
  · intro same
    refine ⟨respelled.check same tree, ?_⟩
    intro clear others
    exact respelled.after_run tree clear others same

/-! ## A workbook among the assets -/

/-- A site with a workbook to download and older output. -/
def downloadFiles : FileSystem where
  items :=
    [(["site"], .directory), (["site", "spec"], .directory),
     (["site", "spec", "site.xlsx"],
       .file (.workbook (pageWorkbook "index" "/index.html"))),
     (["site", "spec", "static"], .directory),
     (["site", "spec", "static", "download.xlsx"],
       .file (.workbook (pageWorkbook "download" "/download.html"))),
     (["site", "www"], .directory),
     (["site", "www", "old.html"], .file (.text "old"))]

theorem isTree_downloadFiles : downloadFiles.IsTree := by
  apply isTree_of_items rfl
  decide +kernel

/-- The same site with its directories spelled in another way. -/
def spelledSettings (spec static output : Path) : BuildSettings :=
  { plainSettings with
    specDirectory := spec
    staticDirectory := static
    outputDirectory := output }

def absoluteSettings : BuildSettings :=
  spelledSettings ⟨"/site/spec"⟩ ⟨"/site/spec/static/"⟩ ⟨"spec/../www"⟩

def detouredSettings : BuildSettings :=
  spelledSettings ⟨"spec"⟩ ⟨"spec/../spec/static"⟩ ⟨"www"⟩

theorem respelled_spelledSettings {spec static output : Path}
    (specLeads : (downloadFiles.locate
      (spelledSettings spec static output).specPath).toOption =
        some ["site", "spec"])
    (staticLeads : (downloadFiles.locate
      (spelledSettings spec static output).staticPath).toOption =
        some ["site", "spec", "static"])
    (outputLeads : (downloadFiles.locate
      (spelledSettings spec static output).outputPath).toOption =
        some ["site", "www"]) :
    Respelled downloadFiles plainSettings
      (spelledSettings spec static output) where
  site := rfl
  clean := rfl
  lang := rfl
  sitemap := rfl
  spec := ⟨_, Outcome.eq_ok_of_toOption (by decide +kernel),
    Outcome.eq_ok_of_toOption specLeads⟩
  static := ⟨_, Outcome.eq_ok_of_toOption (by decide +kernel),
    Outcome.eq_ok_of_toOption staticLeads⟩
  output := ⟨_, Outcome.eq_ok_of_toOption (by decide +kernel),
    Outcome.eq_ok_of_toOption outputLeads⟩

theorem respelled_absoluteSettings :
    Respelled downloadFiles plainSettings absoluteSettings :=
  respelled_spelledSettings (by decide +kernel) (by decide +kernel)
    (by decide +kernel)

theorem respelled_detouredSettings :
    Respelled downloadFiles plainSettings detouredSettings :=
  respelled_spelledSettings (by decide +kernel) (by decide +kernel)
    (by decide +kernel)

/-- A static path with a detour makes the workbook a page of the site. -/
theorem asset_loaded_detoured :
    downloadFiles.IsTree ∧
      Respelled downloadFiles plainSettings detouredSettings ∧
      check downloadFiles plainSettings = .ok ⟨1, 1, ["en"]⟩ ∧
      check downloadFiles detouredSettings = .ok ⟨2, 2, ["en"]⟩ ∧
      lexicalLocation downloadFiles detouredSettings.staticPath =
        ["site", "spec", "static"] ∧
      (Site.placeBelow detouredSettings.specPath ["static", "download.xlsx"],
          .workbook (pageWorkbook "download" "/download.html")) ∈
        Site.workbookFiles downloadFiles detouredSettings.specPath
          ["site", "spec"] (some detouredSettings.staticPath) :=
  ⟨isTree_downloadFiles, respelled_detouredSettings,
    Outcome.eq_ok_of_toOption (by decide +kernel),
    Outcome.eq_ok_of_toOption (by decide +kernel), by decide +kernel,
    by decide +kernel⟩

theorem forall_prefix_of_inits {α : Type} {items : List α}
    {holds : List α → Prop} (each : ∀ passed ∈ items.inits, holds passed) :
    ∀ ⦃passed⦄, passed <+: items → holds passed :=
  fun _ listed => each _ ((List.mem_inits _ _).mpr listed)

theorem keepsClear_downloadFiles {settings : BuildSettings}
    (output : (downloadFiles.locate settings.outputPath).toOption =
      some ["site", "www"])
    (static : (downloadFiles.locate settings.staticPath).toOption =
      some ["site", "spec", "static"])
    (removable : Removable downloadFiles settings) :
    KeepsClear downloadFiles settings :=
  keepsClear_of_outside isTree_downloadFiles
    (Outcome.eq_ok_of_toOption output) rfl
    (Outcome.eq_ok_of_toOption static) rfl (by decide) fun _ => removable

theorem keepsClear_plainSettings :
    KeepsClear downloadFiles plainSettings :=
  keepsClear_downloadFiles (by decide +kernel) (by decide +kernel)
    ⟨⟨"www", by decide +kernel⟩, by decide +kernel,
      forall_prefix_of_inits (by decide +kernel),
      forall_prefix_of_inits (by decide +kernel)⟩

theorem keepsClear_absoluteSettings :
    KeepsClear downloadFiles absoluteSettings :=
  keepsClear_downloadFiles (by decide +kernel) (by decide +kernel)
    ⟨⟨"www", by decide +kernel⟩, by decide +kernel,
      forall_prefix_of_inits (by decide +kernel),
      forall_prefix_of_inits (by decide +kernel)⟩

/-- Absolute paths leave the workbook out as well. -/
theorem respelled_outcome_absolute :
    downloadFiles.IsTree ∧
      Respelled downloadFiles plainSettings absoluteSettings ∧
      (Site.placeBelow plainSettings.specPath ["static", "download.xlsx"],
          .workbook (pageWorkbook "download" "/download.html")) ∉
        Site.workbookFiles downloadFiles plainSettings.specPath
          ["site", "spec"] (some plainSettings.staticPath) ∧
      check downloadFiles absoluteSettings = .ok ⟨1, 1, ["en"]⟩ ∧
      (run plainSettings downloadFiles).2 =
        (run absoluteSettings downloadFiles).2 := by
  have plain : plainSettings.NamesStaticBelowSpec :=
    ⟨["static"], by decide +kernel⟩
  have absolute : absoluteSettings.NamesStaticBelowSpec :=
    ⟨["static"], by decide +kernel⟩
  obtain ⟨loaded, agrees⟩ :=
    respelled_outcome isTree_downloadFiles respelled_absoluteSettings
  obtain ⟨checked, built⟩ := agrees (.inl (iff_of_true plain absolute))
  have first : check downloadFiles plainSettings = .ok ⟨1, 1, ["en"]⟩ :=
    Outcome.eq_ok_of_toOption (by decide +kernel)
  refine ⟨isTree_downloadFiles, respelled_absoluteSettings, ?_, ?_,
    built keepsClear_plainSettings keepsClear_absoluteSettings⟩
  · rw [loaded _ _ _ (Outcome.eq_ok_of_toOption (by decide +kernel))
      (by decide)]
    rintro ⟨-, outside⟩
    exact outside ⟨plain, by decide +kernel⟩
  · rw [first] at checked
    cases same : check downloadFiles absoluteSettings with
    | ok report =>
        rw [same] at checked
        cases checked with
        | ok alike => rw [alike]
    | error error =>
        rw [same] at checked
        cases checked

end WorkbookSite.Build

import WorkbookSite.Proofs.MaintainedBuilds

/-!
# Builds and checks

A check does what a build does before it writes.  So both find the same error
in a site, and a build that finds one has written nothing; from then on a
build can only fail to write.
-/

namespace WorkbookSite

/-- An error in the settings or in the site, not in what is written. -/
def SiteError.FoundBeforeWriting : SiteError → Prop
  | .unsafeOutput _ _ | .missingSpecDirectory _ | .workbook _ | .layout _ _
  | .render _ _ _ | .invalidPath _ _ _ | .duplicateOutput _ _ _ => True
  | .unreadable _ | .write _ => False

def SiteError.FoundInWriting (error : SiteError) : Prop :=
  ∃ path, error = .write path

theorem SiteError.FoundInWriting.not_before {error : SiteError}
    (inWriting : error.FoundInWriting) : ¬ error.FoundBeforeWriting := by
  obtain ⟨path, rfl⟩ := inWriting
  exact id

namespace Build

open FileSystem FileAction

variable {settings : BuildSettings} {documents : List RenderedDocument}
  {files after : FileSystem}

theorem maintains_any {α : Type} {fault : Refusal → Prop}
    (action : FileAction Refusal α) (always : ∀ refusal, fault refusal) :
    Maintains (fun _ => True) fault action :=
  fun _ _ _ _ _ => ⟨trivial, fun refusal _ => always refusal⟩

/-- All that can go wrong once a build writes is that something cannot be
written. -/
theorem foundInWriting_of_writeOutput {result : Except SiteError Nat}
    {error : SiteError}
    (wrote : writeOutput settings documents files = (result, after))
    (failed : result = .error error) : error.FoundInWriting := by
  have established : Establishes files (fun _ => True)
      SiteError.FoundInWriting (writeOutput settings documents) := by
    apply establishes_writeOutput
    · intro error after _ removed
      refine ⟨trivial, ?_⟩
      obtain ⟨result, -, finished | finished⟩ := removeOutput_ran removed
      · cases finished.1
      · cases finished.1
        exact ⟨_, rfl⟩
    · intro emptied _
      apply establishes_writeAssets
      · intro path _
        exact maintains_any _ (fun _ => ⟨path, rfl⟩) trivial
      · intro location _ _ name _
        have copyable : Assets.Copyable (fun _ _ => True)
            SiteError.FoundInWriting location settings.outputPath
            (fun _ => True)
            (emptied.items.length + settings.outputPath.components.length +
              1) := by
          constructor
          · intro files names child _
            trivial
          · intro files names child inner _ _ _
            trivial
          · intro names _ _
            exact ⟨_, rfl⟩
          · intro files names child content _ _ _
            exact maintains_any _ (fun _ => ⟨_, rfl⟩) trivial
          · intro files names child outcome after _ _ _ _
            exact ⟨fun _ => trivial, fun _ _ => ⟨trivial, _, rfl⟩⟩
        apply copyable.maintains [] trivial
        rw [List.nil_append, List.length_singleton]
        omega
    · intro document _
      apply maintains_writeDocument
      · exact maintains_any _ fun _ => ⟨_, rfl⟩
      · exact maintains_any _ fun _ => ⟨_, rfl⟩
    · intro base _
      apply maintains_writeSitemap
      intro content
      exact maintains_any _ fun _ => ⟨_, rfl⟩
  exact (established wrote).2 error failed

theorem check_eq_ok_iff [WorkbookReader] {checked : CheckReport} :
    check files settings = .ok checked ↔
      ∃ site documents, prepare files settings = .ok (site, documents) ∧
        checked = ⟨site.pages.length, documents.length, site.locales⟩ := by
  rw [check, Outcome.bind_eq_ok]
  constructor
  · intro succeeded
    obtain ⟨⟨site, documents⟩, prepared, same⟩ := succeeded
    cases same
    exact ⟨site, documents, prepared, rfl⟩
  · intro succeeded
    obtain ⟨site, documents, prepared, rfl⟩ := succeeded
    exact ⟨(site, documents), prepared, rfl⟩

theorem check_eq_error_iff [WorkbookReader] {error : SiteError} :
    check files settings = .error error ↔
      prepare files settings = .error error := by
  rw [check, Outcome.bind_eq_error]
  constructor
  · intro failed
    rcases failed with failed | ⟨prepared, -, same⟩
    · exact failed
    · cases same
  · exact .inl

/-- A build that ends with an error of the settings or the site has changed
nothing.  Past the guard, it ends with the error a check ends with, and where a
check succeeds it cannot write something or reports as many pages and
documents. -/
theorem run_agrees_with_check [WorkbookReader]
    {outcome : Except SiteError BuildReport}
    (ran : run settings files = (outcome, after)) :
    (∀ error, outcome = .error error → error.FoundBeforeWriting →
        after = files) ∧
      (guard files settings = .ok () →
        (∀ error, check files settings = .error error →
            outcome = .error error ∧ after = files) ∧
          ∀ checked, check files settings = .ok checked →
            (∃ error, outcome = .error error ∧ error.FoundInWriting) ∨
              ∃ built, outcome = .ok built ∧ built.pages = checked.pages ∧
                built.documents = checked.documents) := by
  rcases run_ran ran with ⟨stop, rfl, rfl, stopped⟩ |
    ⟨site, documents, result, passed, prepared, wrote, rfl⟩
  · refine ⟨fun _ _ _ => rfl, ?_⟩
    intro passed
    have failed : prepare after settings = .error stop := by
      rcases stopped with refused | ⟨-, failed⟩
      · rw [refused] at passed
        cases passed
      · exact failed
    constructor
    · intro error found
      rw [check_eq_error_iff, failed] at found
      cases found
      exact ⟨rfl, rfl⟩
    · intro checked found
      obtain ⟨site, documents, prepared, -⟩ := check_eq_ok_iff.mp found
      rw [failed] at prepared
      cases prepared
  · constructor
    · intro error failed before
      cases result with
      | ok assets => cases failed
      | error stop =>
          cases failed
          have late := foundInWriting_of_writeOutput wrote rfl
          exact absurd before late.not_before
    · intro _
      constructor
      · intro error found
        rw [check_eq_error_iff, prepared] at found
        cases found
      · intro checked found
        obtain ⟨_, _, loaded, rfl⟩ := check_eq_ok_iff.mp found
        rw [prepared] at loaded
        cases loaded
        cases result with
        | ok assets => exact .inr ⟨_, rfl, rfl, rfl⟩
        | error stop =>
            exact .inl ⟨stop, rfl, foundInWriting_of_writeOutput wrote rfl⟩

/-! ## Two pages with one path -/

def plainSettings : BuildSettings :=
  { nestedSettings with outputDirectory := ⟨"www"⟩ }

/-- A site with older output. -/
def siteFiles (workbook : Workbook) : FileSystem where
  items :=
    [(["site"], .directory), (["site", "spec"], .directory),
     (["site", "spec", "site.xlsx"], .file (.workbook workbook)),
     (["site", "www"], .directory),
     (["site", "www", "old.html"], .file (.text "old"))]

def pagesWorkbook (pages : List (String × String)) : Workbook :=
  ⟨pages.flatMap fun (name, path) => (pageWorkbook name path).worksheets⟩

/-- Two pages that give the path of one file, spelled in two ways. -/
def repeatedFiles : FileSystem :=
  siteFiles
    (pagesWorkbook [("index", "/index.html"), ("copy", "./index.html/")])

theorem run_repeatedFiles :
    guard repeatedFiles plainSettings = .ok () ∧
      check repeatedFiles plainSettings =
        .error (.duplicateOutput "./index.html/" "index (en)" "copy (en)") ∧
      (run plainSettings repeatedFiles).1 =
        .error (.duplicateOutput "./index.html/" "index (en)" "copy (en)") ∧
      (run plainSettings repeatedFiles).2 = repeatedFiles := by
  have guarded : guard repeatedFiles plainSettings = .ok () := by
    decide +kernel
  have checked : check repeatedFiles plainSettings = .error
      (.duplicateOutput "./index.html/" "index (en)" "copy (en)") := by
    decide +kernel
  have agrees := (run_agrees_with_check (Prod.eta _).symm).2 guarded
  exact ⟨guarded, checked, agrees.1 _ checked⟩

end Build

end WorkbookSite

import WorkbookSite.Proofs.FileGrowth
import WorkbookSite.Site.Build
import WorkbookSite.Workbook.Stored

/-!
# Files that survive a cleaning build

A build that removes older output changes no file but those it writes and those
below the output directory.  The guard keeps the output directory from holding
the directories a site is built from, but not from lying inside one of them; the
files below it are removed then, although the site was loaded from them.
-/

namespace WorkbookSite.Build

open FileSystem FileAction

/-- The paths a build writes to and what it writes there: the documents, the
copies of the assets and the sitemap. -/
inductive Target (settings : BuildSettings)
    (documents : List RenderedDocument) :
    FileSystem → Path → Content → Prop where
  | document {files : FileSystem} {document : RenderedDocument}
      (listed : document ∈ documents) :
      Target settings documents files
        (documentFile settings.outputPath document)
        (.text document.document.toHtml)
  | asset {files : FileSystem} {source : Location} {names : List String}
      {content : Content}
      (located : files.locate settings.staticPath = .ok source)
      (stored : files.item? (source ++ names) = some (.file content))
      (copied : Content) :
      Target settings documents files
        (settings.outputPath.join (.ofNames names)) copied
  | sitemap {files : FileSystem} {base : String}
      (configured : settings.sitemapBase = some base) :
      Target settings documents files
        (settings.outputPath.join ⟨"sitemap.xml"⟩)
        (.text (Sitemap.text base (documents.map (·.path))))

variable {settings : BuildSettings} {documents : List RenderedDocument}
  {files after : FileSystem}

theorem persistent_target : Persistent (Target settings documents) := by
  intro before after target content keeps listed
  cases listed with
  | document listed => exact .document listed
  | asset located stored =>
      obtain ⟨latest, kept⟩ := keeps.file stored
      exact .asset (keeps.locate located) kept content
  | sitemap configured => exact .sitemap configured

theorem extends_writeDocument {document : RenderedDocument}
    {outcome : Except SiteError Unit} (listed : document ∈ documents)
    (ran : writeDocument settings.outputPath document files =
      (outcome, after)) :
    Extends (Target settings documents) files after := by
  unfold writeDocument at ran
  apply Extends.bind persistent_target ran
    (.of_orElseFail (extends_makeParents persistent_target))
  intro made middle _ _ written
  apply Extends.bind persistent_target written
    (.of_orElseFail (extends_writeFile persistent_target (.document listed)))
  intro place final _ _ finished
  exact .of_pure finished

theorem extends_writeDocuments {others : List RenderedDocument}
    {outcome : Except SiteError Unit} (listed : others ⊆ documents)
    (ran : others.forM (writeDocument settings.outputPath) files =
      (outcome, after)) :
    Extends (Target settings documents) files after := by
  induction others generalizing files with
  | nil => exact .of_pure ran
  | cons document others induction =>
      obtain ⟨here, later⟩ := List.cons_subset.mp listed
      apply Extends.bind persistent_target ran (extends_writeDocument here)
      intro written middle _ _ rest
      exact induction later rest

theorem extends_writeSitemap {base : String} {outcome : Except SiteError Unit}
    (configured : settings.sitemapBase = some base)
    (ran : writeSitemap base settings.outputPath documents files =
      (outcome, after)) :
    Extends (Target settings documents) files after := by
  unfold writeSitemap at ran
  apply Extends.bind persistent_target ran
    (.of_orElseFail (extends_writeFile persistent_target
      (.sitemap configured)))
  intro place middle _ _ finished
  exact .of_pure finished

theorem extends_copyInside {source : Location}
    {copyInside : List String → FileAction SiteError Nat}
    (inside : ∀ ⦃files after names outcome⦄,
      files.locate settings.staticPath = .ok source →
        copyInside names files = (outcome, after) →
          Extends (Target settings documents) files after)
    {names children : List String} {count : Nat}
    {outcome : Except SiteError Nat}
    (located : files.locate settings.staticPath = .ok source)
    (ran : (children.foldlM (fun count name => do
        let copied ← copyInside (names ++ [name])
        pure (count + copied)) count : FileAction SiteError Nat) files =
          (outcome, after)) :
    Extends (Target settings documents) files after := by
  induction children generalizing files count with
  | nil => exact .of_pure ran
  | cons child children induction =>
      rw [List.foldlM_cons] at ran
      apply Extends.bind persistent_target ran
      · intro result middle first
        apply Extends.bind persistent_target first
          fun here => inside located here
        intro copied final _ _ counted
        exact .of_pure counted
      · intro total middle _ grown rest
        exact induction (grown.toKeeps.locate located) rest

theorem extends_copyPlace {source : Location} {levels : Nat}
    {names : List String} {outcome : Except SiteError Nat}
    (located : files.locate settings.staticPath = .ok source)
    (ran : Assets.copyPlace source settings.outputPath levels names files =
      (outcome, after)) :
    Extends (Target settings documents) files after := by
  induction levels generalizing names files outcome after with
  | zero => exact .of_throw ran
  | succ levels induction =>
      rw [Assets.copyPlace, Assets.copyItem] at ran
      replace ran := get_bind_ran.mp ran
      cases stored : files.item? (source ++ names) with
      | none =>
          simp only [stored] at ran
          exact .of_pure ran
      | some item =>
          cases item with
          | file content =>
              simp only [stored] at ran
              apply Extends.bind persistent_target ran
                (.of_orElseFail (extends_copyFile persistent_target
                  (.asset located stored)))
              intro copied middle _ _ counted
              exact .of_pure counted
          | directory =>
              simp only [stored] at ran
              apply Extends.bind persistent_target ran
                (.of_orElseFail (extends_makeDirectories persistent_target))
              intro made middle _ grown rest
              apply extends_copyInside ?_ (grown.toKeeps.locate located) rest
              intro files after names outcome
              exact induction

theorem extends_writeAssets {outcome : Except SiteError Nat}
    (ran : writeAssets settings.staticPath settings.outputPath files =
      (outcome, after)) :
    Extends (Target settings documents) files after := by
  unfold writeAssets at ran
  replace ran := get_bind_ran.mp ran
  cases present : files.isDirectory settings.staticPath with
  | true =>
      simp only [present, if_true] at ran
      unfold Assets.copyTree at ran
      replace ran := get_bind_ran.mp ran
      cases located : files.locate settings.staticPath with
      | error refusal =>
          simp only [located] at ran
          exact .of_throw ran
      | ok source =>
          simp only [located] at ran
          exact extends_copyPlace located ran
  | false =>
      simp only [present, Bool.false_eq_true, if_false] at ran
      apply Extends.bind persistent_target ran
        (.of_orElseFail (extends_makeDirectories persistent_target))
      intro made middle _ _ finished
      exact .of_pure finished

theorem removeOutput_ran {output : Path} {outcome : Except SiteError Unit}
    (ran : removeOutput output files = (outcome, after)) :
    ∃ result, removeTree output files = (result, after) ∧
      (outcome = .ok () ∧ result ≠ .error .obstructed ∨
        outcome = .error (.write output) ∧ result = .error .obstructed) := by
  rw [removeOutput] at ran
  rcases removed : removeTree output files with ⟨result, left⟩
  rw [removed] at ran
  cases result with
  | ok value =>
      cases ran
      exact ⟨.ok value, rfl, .inl ⟨rfl, by simp⟩⟩
  | error refusal =>
      cases refusal with
      | missing =>
          cases ran
          exact ⟨_, rfl, .inl ⟨rfl, by simp⟩⟩
      | obstructed =>
          cases ran
          exact ⟨_, rfl, .inr ⟨rfl, rfl⟩⟩

theorem workingDirectory_removeOutput {output : Path}
    {outcome : Except SiteError Unit}
    (ran : removeOutput output files = (outcome, after)) :
    after.workingDirectory = files.workingDirectory := by
  obtain ⟨result, removed, -⟩ := removeOutput_ran ran
  exact workingDirectory_removeTree removed

/-- What a build writes once older output is out of the way. -/
def writeContents (settings : BuildSettings)
    (documents : List RenderedDocument) : FileAction SiteError Nat := do
  let assets ← writeAssets settings.staticPath settings.outputPath
  documents.forM (writeDocument settings.outputPath)
  match settings.sitemapBase with
  | none => pure ()
  | some base => writeSitemap base settings.outputPath documents
  pure assets

theorem writeOutput_eq (settings : BuildSettings)
    (documents : List RenderedDocument) :
    writeOutput settings documents =
      if settings.clean then do
        removeOutput settings.outputPath
        writeContents settings documents
      else writeContents settings documents := by
  rw [writeOutput]
  cases settings.clean with
  | true => rfl
  | false => rfl

theorem extends_writeContents {outcome : Except SiteError Nat}
    (ran : writeContents settings documents files = (outcome, after)) :
    Extends (Target settings documents) files after := by
  apply Extends.bind persistent_target ran extends_writeAssets
  intro assets copied _ _ rest
  apply Extends.bind persistent_target rest
    (extends_writeDocuments (List.Subset.refl documents))
  intro written final _ _ ending
  cases configured : settings.sitemapBase with
  | none =>
      simp only [configured] at ending
      exact .of_pure ending
  | some base =>
      simp only [configured] at ending
      apply Extends.bind persistent_target ending
        (extends_writeSitemap configured)
      intro mapped last _ _ finished
      exact .of_pure finished

/-- Whatever is written is written after the removal. -/
theorem writeOutput_ran {outcome : Except SiteError Nat}
    (clean : settings.clean = true)
    (ran : writeOutput settings documents files = (outcome, after)) :
    ∃ result emptied,
      removeTree settings.outputPath files = (result, emptied) ∧
        Extends (Target settings documents) emptied after := by
  rw [writeOutput_eq, if_pos clean] at ran
  rcases bind_ran ran with ⟨removed, emptied, here, later⟩ | ⟨error, here, -⟩
  · obtain ⟨result, same, -⟩ := removeOutput_ran here
    exact ⟨result, emptied, same, extends_writeContents later⟩
  · obtain ⟨result, same, -⟩ := removeOutput_ran here
    exact ⟨result, after, same, .refl after⟩

section Run

variable [WorkbookReader]

/-- A build stops at the guard, or at what is wrong with the site, or comes to
write all it has prepared. -/
theorem run_ran {outcome : Except SiteError BuildReport}
    (ran : run settings files = (outcome, after)) :
    (∃ error, outcome = .error error ∧ after = files ∧
      (guard files settings = .error error ∨
        guard files settings = .ok () ∧
          prepare files settings = .error error)) ∨
      ∃ site documents result,
        guard files settings = .ok () ∧
          prepare files settings = .ok (site, documents) ∧
          writeOutput settings documents files = (result, after) ∧
          outcome = result.map fun assets =>
            ⟨site.pages.length, documents.length, assets,
              settings.outputPath⟩ := by
  rw [run] at ran
  replace ran := get_bind_ran.mp ran
  rcases bind_ran ran with ⟨safe, middle, guarded, rest⟩ |
    ⟨error, guarded, rfl⟩
  · obtain ⟨passed, rfl⟩ := liftExcept_ran guarded
    rcases bind_ran rest with ⟨⟨site, documents⟩, last, loaded, writing⟩ |
      ⟨error, loaded, rfl⟩
    · obtain ⟨prepared, rfl⟩ := liftExcept_ran loaded
      rcases bind_ran writing with ⟨assets, final, wrote, ending⟩ |
        ⟨error, wrote, rfl⟩
      · obtain ⟨rfl, rfl⟩ := pure_ran.mp ending
        exact .inr ⟨site, documents, .ok assets, passed, prepared, wrote, rfl⟩
      · exact .inr
          ⟨site, documents, .error error, passed, prepared, wrote, rfl⟩
    · obtain ⟨failed, rfl⟩ := liftExcept_ran loaded
      exact .inl ⟨error, rfl, rfl, .inr ⟨passed, failed⟩⟩
  · obtain ⟨failed, rfl⟩ := liftExcept_ran guarded
    exact .inl ⟨error, rfl, rfl, .inl failed⟩

/-- The place holds a document, an asset or the sitemap of the build, whose path
leads there. -/
def Written (files : FileSystem) (settings : BuildSettings)
    (after : FileSystem) (place : Location) : Prop :=
  ∃ site documents target content,
    prepare files settings = .ok (site, documents) ∧
      Target settings documents after target content ∧
      after.locate target = .ok place ∧
      after.item? place = some (.file content)

/-- The build gets as far as removing older output, and the place is below the
output directory. -/
def Removed (files : FileSystem) (settings : BuildSettings)
    (place : Location) : Prop :=
  guard files settings = .ok () ∧
    (∃ prepared, prepare files settings = .ok prepared) ∧
    files.Removes settings.outputPath place

/-- A file that the build does not write survives just when it is not
removed. -/
theorem survives_iff_not_removed {outcome : Except SiteError BuildReport}
    {place : Location} {content : Content} (clean : settings.clean = true)
    (ran : run settings files = (outcome, after))
    (stored : files.item? place = some (.file content))
    (unwritten : ¬ Written files settings after place) :
    after.item? place = some (.file content) ↔
      ¬ Removed files settings place := by
  rcases run_ran ran with ⟨error, -, rfl, stopped⟩ |
    ⟨site, documents, result, passed, prepared, wrote, -⟩
  · refine ⟨?_, fun _ => stored⟩
    intro _ removed
    obtain ⟨passed, ⟨prepared, loaded⟩, -⟩ := removed
    rcases stopped with refused | ⟨-, failed⟩
    · rw [refused] at passed
      cases passed
    · rw [failed] at loaded
      cases loaded
  · obtain ⟨removal, emptied, removed, grown⟩ := writeOutput_ran clean wrote
    obtain ⟨gone, kept⟩ := item?_removeTree stored removed
    have unchanged : ∀ {latest}, after.item? place = some (.file latest) →
        emptied.item? place = some (.file latest) := by
      intro latest found
      apply (grown.written found).resolve_right
      intro written
      obtain ⟨target, listed, leads⟩ := written
      exact unwritten
        ⟨site, documents, target, latest, prepared, listed, leads, found⟩
    constructor
    · intro survived removed
      obtain ⟨-, -, removes⟩ := removed
      have still := unchanged survived
      rw [gone removes] at still
      cases still
    · intro notRemoved
      have left := kept fun removes =>
        notRemoved ⟨passed, ⟨_, prepared⟩, removes⟩
      obtain ⟨latest, found⟩ := grown.file left
      have same := unchanged found
      rw [left] at same
      cases same
      exact found

end Run

/-- The files a site is built from, each with the directory that it is found
in: the workbooks and the assets. -/
inductive Input (files : FileSystem) (settings : BuildSettings) :
    Location → Location → Content → Prop where
  | workbook {source : Location} {names : List String} {content : Content}
      (located : files.locate settings.specPath = .ok source)
      (stored : files.item? (source ++ names) = some (.file content))
      (loaded : (Site.placeBelow settings.specPath names, content) ∈
        Site.workbookFiles files settings.specPath source
          (some settings.staticPath)) :
      Input files settings source (source ++ names) content
  | asset {source : Location} {names : List String} {content : Content}
      (located : files.locate settings.staticPath = .ok source)
      (stored : files.item? (source ++ names) = some (.file content)) :
      Input files settings source (source ++ names) content

theorem endangered?_of_check
    (checked : CleanGuard.check files settings = .ok ()) :
    CleanGuard.endangered? files settings = none := by
  unfold CleanGuard.check at checked
  cases found : CleanGuard.endangered? files settings with
  | none => rfl
  | some endangered =>
      rw [found] at checked
      cases checked

theorem not_prefix_of_check {path : Path} {output source : Location}
    (checked : CleanGuard.check files settings = .ok ())
    (guarded : path ∈
      [settings.siteDirectory, settings.specPath, settings.staticPath])
    (outputLocated : files.locate settings.outputPath = .ok output)
    (located : files.locate path = .ok source) :
    ¬ output <+: source := by
  have safe :=
    List.find?_eq_none.mp (endangered?_of_check checked) path guarded
  simpa [CleanGuard.endangers, CleanGuard.location?, outputLocated, located]
    using safe

theorem Input.located {source place : Location} {content : Content}
    (input : Input files settings source place content) :
    (files.locate settings.specPath = .ok source ∨
        files.locate settings.staticPath = .ok source) ∧
      source <+: place ∧ files.item? place = some (.file content) := by
  cases input with
  | workbook located stored loaded =>
      exact ⟨.inl located, List.prefix_append .., stored⟩
  | asset located stored =>
      exact ⟨.inr located, List.prefix_append .., stored⟩

/-- What a site is built from survives a cleaning build unless it is removed or
written.  It is removed only if the output directory lies strictly inside the
directory that it was found in, and it is below both. -/
theorem input_survives_iff [WorkbookReader]
    {outcome : Except SiteError BuildReport} {source place : Location}
    {content : Content} (clean : settings.clean = true)
    (ran : run settings files = (outcome, after))
    (input : Input files settings source place content)
    (unwritten : ¬ Written files settings after place) :
    (after.item? place = some (.file content) ↔
        ¬ Removed files settings place) ∧
      (Removed files settings place →
        ∃ output, files.locate settings.outputPath = .ok output ∧
          source <+: output ∧ source ≠ output ∧ output <+: place) := by
  obtain ⟨located, below, stored⟩ := input.located
  refine ⟨survives_iff_not_removed clean ran stored unwritten, ?_⟩
  intro removed
  obtain ⟨passed, -, output, outputLocated, -, outputAbove⟩ := removed
  have checked : CleanGuard.check files settings = .ok () := by
    rwa [guard, if_pos clean] at passed
  have notAbove : ¬ output <+: source := by
    rcases located with spec | static
    · exact not_prefix_of_check checked (by simp) outputLocated spec
    · exact not_prefix_of_check checked (by simp) outputLocated static
  refine ⟨output, outputLocated, ?_, ?_, outputAbove⟩
  · exact (List.prefix_or_prefix_of_prefix below outputAbove).resolve_right
      notAbove
  · intro same
    subst same
    exact notAbove List.prefix_rfl

/-! ## An output directory inside the spec directory -/

def pageWorkbook (name path : String) : Workbook :=
  ⟨[⟨name, [[.empty, .text "attribute", .text "en"],
    [.text "path", .empty, .text path], [.text "body"]]⟩]⟩

def nestedSettings : BuildSettings where
  siteDirectory := ⟨"site"⟩
  specDirectory := ⟨"spec"⟩
  staticDirectory := ⟨"spec/static"⟩
  outputDirectory := ⟨"spec/www"⟩
  clean := true
  lang := .doctype
  sitemapBase := none

/-- A site with one workbook beside the output directory and one in it. -/
def nestedFiles : FileSystem where
  items :=
    [(["site"], .directory), (["site", "spec"], .directory),
     (["site", "spec", "site.xlsx"],
       .file (.workbook (pageWorkbook "index" "/index.html"))),
     (["site", "spec", "www"], .directory),
     (["site", "spec", "www", "extra.xlsx"],
       .file (.workbook (pageWorkbook "extra" "/extra.html")))]

def nestedOutput : FileSystem where
  items :=
    [(["site"], .directory), (["site", "spec"], .directory),
     (["site", "spec", "site.xlsx"],
       .file (.workbook (pageWorkbook "index" "/index.html"))),
     (["site", "spec", "www"], .directory),
     (["site", "spec", "www", "extra.html"],
       .file (.text "<!DOCTYPE html lang=\"en\"><html><body></body></html>")),
     (["site", "spec", "www", "index.html"],
       .file (.text "<!DOCTYPE html lang=\"en\"><html><body></body></html>"))]

theorem run_nested : run nestedSettings nestedFiles =
    (.ok ⟨2, 2, 0, ⟨"site/spec/www"⟩⟩, nestedOutput) :=
  Prod.ext (Outcome.eq_ok_of_toOption (by decide +kernel)) (by decide +kernel)

theorem Written.eq_of_nested {place : Location}
    (written : Written nestedFiles nestedSettings nestedOutput place) :
    place = ["site", "spec", "www", "index.html"] ∨
      place = ["site", "spec", "www", "extra.html"] := by
  obtain ⟨site, documents, target, content, prepared, listed, leads, -⟩ :=
    written
  have paths : (prepare nestedFiles nestedSettings).toOption.map
      (fun loaded => loaded.2.map (·.path)) =
        some ["/index.html", "/extra.html"] := by
    decide +kernel
  rw [prepared] at paths
  replace paths : documents.map (·.path) = ["/index.html", "/extra.html"] :=
    Option.some.inj paths
  cases listed with
  | @document document listed =>
      have path := List.mem_map_of_mem (f := (·.path)) listed
      rw [paths] at path
      have places : ∀ path ∈ ["/index.html", "/extra.html"],
          (nestedOutput.locate (nestedSettings.outputPath.join
            (.ofNames ((Path.innerNames? ⟨path⟩).getD [])))).toOption ∈
              [some ["site", "spec", "www", "index.html"],
               some ["site", "spec", "www", "extra.html"]] := by
        decide +kernel
      have found := places document.path path
      rw [documentFile] at leads
      rw [leads] at found
      simpa [Except.toOption] using found
  | asset located stored =>
      have missing :
          (nestedOutput.locate nestedSettings.staticPath).toOption = none := by
        decide +kernel
      rw [located] at missing
      cases missing
  | sitemap configured => cases configured

theorem input_nested {names : List String} {name path : String}
    (stored : nestedFiles.item? (["site", "spec"] ++ names) =
      some (.file (.workbook (pageWorkbook name path))))
    (loaded : (Site.placeBelow nestedSettings.specPath names,
        .workbook (pageWorkbook name path)) ∈
      Site.workbookFiles nestedFiles nestedSettings.specPath ["site", "spec"]
        (some nestedSettings.staticPath)) :
    Input nestedFiles nestedSettings ["site", "spec"]
      (["site", "spec"] ++ names) (.workbook (pageWorkbook name path)) :=
  .workbook (Outcome.eq_ok_of_toOption (by decide +kernel)) stored loaded

theorem input_survives_nested :
    nestedSettings.clean = true ∧
      run nestedSettings nestedFiles =
        (.ok ⟨2, 2, 0, ⟨"site/spec/www"⟩⟩, nestedOutput) ∧
      Input nestedFiles nestedSettings ["site", "spec"]
        ["site", "spec", "site.xlsx"]
        (.workbook (pageWorkbook "index" "/index.html")) ∧
      ¬ Written nestedFiles nestedSettings nestedOutput
        ["site", "spec", "site.xlsx"] ∧
      (nestedOutput.item? ["site", "spec", "site.xlsx"] =
          some (.file (.workbook (pageWorkbook "index" "/index.html"))) ↔
        ¬ Removed nestedFiles nestedSettings
          ["site", "spec", "site.xlsx"]) := by
  have input := @input_nested ["site.xlsx"] "index" "/index.html"
    (by decide +kernel) (by decide +kernel)
  have unwritten : ¬ Written nestedFiles nestedSettings nestedOutput
      ["site", "spec", "site.xlsx"] := by
    intro written
    rcases written.eq_of_nested with same | same <;> simp at same
  exact ⟨rfl, run_nested, input, unwritten,
    (input_survives_iff rfl run_nested input unwritten).1⟩

/-- The workbook in the output directory is read and removed by a build that
succeeds and writes nothing in its place. -/
theorem input_lost_nested :
    nestedSettings.clean = true ∧
      run nestedSettings nestedFiles =
        (.ok ⟨2, 2, 0, ⟨"site/spec/www"⟩⟩, nestedOutput) ∧
      Input nestedFiles nestedSettings ["site", "spec"]
        ["site", "spec", "www", "extra.xlsx"]
        (.workbook (pageWorkbook "extra" "/extra.html")) ∧
      ¬ Written nestedFiles nestedSettings nestedOutput
        ["site", "spec", "www", "extra.xlsx"] ∧
      nestedOutput.item? ["site", "spec", "www", "extra.xlsx"] = none := by
  have input := @input_nested ["www", "extra.xlsx"] "extra" "/extra.html"
    (by decide +kernel) (by decide +kernel)
  have unwritten : ¬ Written nestedFiles nestedSettings nestedOutput
      ["site", "spec", "www", "extra.xlsx"] := by
    intro written
    rcases written.eq_of_nested with same | same <;> simp at same
  exact ⟨rfl, run_nested, input, unwritten, by decide +kernel⟩

end WorkbookSite.Build

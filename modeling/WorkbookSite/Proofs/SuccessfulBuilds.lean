import WorkbookSite.Proofs.FollowedPaths
import WorkbookSite.Proofs.MaintainedBuilds
import WorkbookSite.Proofs.RenderedDocuments

/-!
# Builds that succeed

When a build succeeds, so did each part of it: older output was removed, the
assets were copied, and every document and the sitemap were written to the
places that their paths lead to.
-/

namespace WorkbookSite

open FileSystem CleanGuard

variable {files after : FileSystem}

namespace FileAction

variable {ε α β : Type}

theorem bind_succeeded {first : FileAction ε α} {next : α → FileAction ε β}
    {result : β} (ran : (first >>= next) files = (.ok result, after)) :
    ∃ value middle, first files = (.ok value, middle) ∧
      next value middle = (.ok result, after) := by
  rcases bind_ran ran with succeeded | ⟨error, -, failed⟩
  · exact succeeded
  · cases failed

theorem orElseFail_succeeded {action : FileAction Refusal α} {error : ε}
    {result : α}
    (ran : action.orElseFail error files = (.ok result, after)) :
    action files = (.ok result, after) := by
  obtain ⟨reading, here, named⟩ := orElseFail_ran ran
  rw [here, Outcome.mapError_eq_ok.mp named]

end FileAction

open FileAction

theorem FileSystem.writeFile_succeeded {path : Path} {content : Content}
    {place : Location}
    (ran : writeFile path content files = (.ok place, after)) :
    after = files.put place (.file content) ∧ place ≠ [] ∧
      files.isDirectoryAt place = false ∧ after.locate path = .ok place := by
  rcases writeFile_ran ran with ⟨refusal, failed, -⟩ |
    ⟨written, same, put, inside, noDirectory, leads, -⟩
  · cases failed
  · cases same
    exact ⟨put, inside, noDirectory, leads⟩

theorem FileSystem.Keeps.lexicalLocation (keeps : Keeps files after)
    (path : Path) :
    lexicalLocation after path = lexicalLocation files path :=
  lexicalLocation_congr keeps.workingDirectory path

namespace Build

variable {settings : BuildSettings} {documents : List RenderedDocument}
  {output : Path}

/-- The path leads to the place, and the file there holds the content. -/
structure Holds (files : FileSystem) (path : Path) (place : Location)
    (content : Content) : Prop where
  leads : files.locate path = .ok place
  stored : files.item? place = some (.file content)

theorem holds_of_writeFile {path : Path} {content : Content} {place : Location}
    (ran : writeFile path content files = (.ok place, after)) :
    Holds after path (lexicalLocation files path) content := by
  obtain ⟨rfl, inside, -, leads⟩ := writeFile_succeeded ran
  have here := locate_eq_lexicalLocation leads
  rw [lexicalLocation_put] at here
  constructor
  · rw [← here]
    exact leads
  · rw [← here, item?_put _ _ inside, if_pos rfl]

theorem holds_of_writeDocument {document : RenderedDocument}
    (ran : writeDocument output document files = (.ok (), after)) :
    Holds after (documentFile output document)
      (lexicalLocation files (documentFile output document))
      (.text document.document.toHtml) := by
  obtain ⟨_, parents, made, ran⟩ := bind_succeeded ran
  obtain ⟨place, written, here, ended⟩ := bind_succeeded ran
  obtain ⟨-, rfl⟩ := pure_ran.mp ended
  have grown : Extends (fun _ _ _ => True) files parents :=
    extends_makeParents (fun _ _ _ _ _ => id) (orElseFail_succeeded made)
  rw [← grown.lexicalLocation]
  exact holds_of_writeFile (orElseFail_succeeded here)

theorem holds_of_writeSitemap {base : String}
    (ran : writeSitemap base output documents files = (.ok (), after)) :
    Holds after (output.join ⟨"sitemap.xml"⟩)
      (lexicalLocation files (output.join ⟨"sitemap.xml"⟩))
      (.text (Sitemap.text base (documents.map (·.path)))) := by
  obtain ⟨place, written, here, ended⟩ := bind_succeeded ran
  obtain ⟨-, rfl⟩ := pure_ran.mp ended
  exact holds_of_writeFile (orElseFail_succeeded here)

/-- The stages of a build that writes everything. -/
theorem writeContents_succeeded {assets : Nat}
    (ran : writeContents settings documents files = (.ok assets, after)) :
    ∃ copied written,
      writeAssets settings.staticPath settings.outputPath files =
        (.ok assets, copied) ∧
      documents.forM (writeDocument settings.outputPath) copied =
        (.ok (), written) ∧
      match settings.sitemapBase with
      | none => after = written
      | some base =>
          writeSitemap base settings.outputPath documents written =
            (.ok (), after) := by
  obtain ⟨count, copied, assetsCopied, ran⟩ := bind_succeeded ran
  obtain ⟨_, written, documentsWritten, ran⟩ := bind_succeeded ran
  cases configured : settings.sitemapBase with
  | none =>
      simp only [configured] at ran
      obtain ⟨same, rfl⟩ := pure_ran.mp ran
      cases same
      exact ⟨copied, written, assetsCopied, documentsWritten, rfl⟩
  | some base =>
      simp only [configured] at ran
      obtain ⟨_, mapped, sitemapWritten, ran⟩ := bind_succeeded ran
      obtain ⟨same, rfl⟩ := pure_ran.mp ran
      cases same
      exact ⟨copied, written, assetsCopied, documentsWritten, sitemapWritten⟩

theorem writeOutput_succeeded {assets : Nat}
    (ran : writeOutput settings documents files = (.ok assets, after)) :
    ∃ emptied copied written,
      (if settings.clean then
        removeOutput settings.outputPath files = (.ok (), emptied)
      else emptied = files) ∧
      writeAssets settings.staticPath settings.outputPath emptied =
        (.ok assets, copied) ∧
      documents.forM (writeDocument settings.outputPath) copied =
        (.ok (), written) ∧
      match settings.sitemapBase with
      | none => after = written
      | some base =>
          writeSitemap base settings.outputPath documents written =
            (.ok (), after) := by
  rw [writeOutput_eq] at ran
  split at ran
  · rename_i clean
    obtain ⟨_, emptied, removed, ran⟩ := bind_succeeded ran
    obtain ⟨copied, written, found⟩ := writeContents_succeeded ran
    refine ⟨emptied, copied, written, ?_, found⟩
    rw [if_pos clean]
    exact removed
  · rename_i unclean
    obtain ⟨copied, written, found⟩ := writeContents_succeeded ran
    refine ⟨files, copied, written, ?_, found⟩
    rw [if_neg unclean]

end Build

end WorkbookSite

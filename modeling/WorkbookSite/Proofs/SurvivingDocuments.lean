import Mathlib.Data.List.Nodup
import WorkbookSite.Proofs.CheckedBuild
import WorkbookSite.Proofs.MaintainedWrites
import WorkbookSite.Proofs.SuccessfulBuilds

/-!
# Documents that survive a build

The documents of a build are written to files of their own, after the assets,
so that none is written over by an asset or by another document.  The sitemap
comes last, and no one looks whether a document is to be its file.
-/

namespace WorkbookSite.Build

open FileSystem FileAction CleanGuard

variable {settings : BuildSettings} {documents : List RenderedDocument}
  {files after : FileSystem} {output : Path} {home place : Location}
  {content : Content}

/-- The place holds a file with this content. -/
structure Keeping (home place : Location) (content : Content)
    (files : FileSystem) : Prop where
  settled : files.workingDirectory = home
  stored : files.item? place = some (.file content)

namespace Keeping

theorem put (keeping : Keeping home place content files)
    {location : Location} {item : Item} (inside : location ≠ [])
    (elsewhere : location ≠ place) :
    Keeping home place content (files.put location item) := by
  constructor
  · exact keeping.settled
  · rw [item?_put _ _ inside, if_neg (Ne.symm elsewhere)]
    exact keeping.stored

theorem put_absent (keeping : Keeping home place content files)
    {location : Location} {item : Item} (inside : location ≠ [])
    (absent : files.item? location = none) :
    Keeping home place content (files.put location item) := by
  apply keeping.put inside
  intro same
  rw [same, keeping.stored] at absent
  cases absent

/-- A file stays as it is while other files are written. -/
theorem writable : Writable (Keeping home place content) home output
    (fun names => resolve home output.components ++ names ≠ place) := by
  constructor
  · intro files keeping
    exact keeping.settled
  · intro files passed name keeping _ absent
    exact keeping.put_absent (by simp) absent
  · intro files names name keeping _ absent
    exact keeping.put_absent (by simp) absent
  · intro files names name content keeping elsewhere _ _
    rw [← List.append_assoc] at elsewhere
    exact keeping.put (by simp) elsewhere

end Keeping

theorem Holds.kept {ε α : Type} {path : Path} {action : FileAction ε α}
    {outcome : Except ε α} (held : Holds files path place content)
    (keeps : Keeps files after)
    (maintained : Maintains (Keeping files.workingDirectory place content)
      (fun _ => True) action)
    (ran : action files = (outcome, after)) : Holds after path place content :=
  ⟨keeps.locate held.leads, (maintained ⟨rfl, held.stored⟩ ran).1.stored⟩

/-- The place of the file that a document is written to. -/
def documentPlace (files : FileSystem) (output : Path)
    (document : RenderedDocument) : Location :=
  lexicalLocation files output ++ document.names

theorem documentPlace_congr {document : RenderedDocument}
    (same : after.workingDirectory = files.workingDirectory) :
    documentPlace after output document =
      documentPlace files output document := by
  rw [documentPlace, documentPlace, lexicalLocation_congr same]

/-- The file of a document holds it. -/
def HoldsDocument (files : FileSystem) (output : Path) (place : Location)
    (document : RenderedDocument) : Prop :=
  Holds files (documentFile output document) place
    (.text document.document.toHtml)

theorem lexicalLocation_documentFile (files : FileSystem)
    {document : RenderedDocument}
    (inner : Path.innerNames? ⟨document.path⟩ = some document.names) :
    lexicalLocation files (documentFile output document) =
      documentPlace files output document :=
  lexicalLocation_join_ofNames files (Path.isFileName_of_innerNames? inner).2

theorem lexicalLocation_sitemap (files : FileSystem) :
    lexicalLocation files (output.join ⟨"sitemap.xml"⟩) =
      lexicalLocation files output ++ ["sitemap.xml"] := by
  have name : (⟨"sitemap.xml"⟩ : Path) = .ofNames ["sitemap.xml"] := by decide
  rw [name]
  exact lexicalLocation_join_ofNames files (by decide)

/-- Documents with different names are all there when the last one is
written. -/
theorem holds_of_writeDocuments
    (inner : ∀ document ∈ documents,
      Path.innerNames? ⟨document.path⟩ = some document.names)
    (distinct : (documents.map RenderedDocument.names).Nodup)
    (ran : documents.forM (writeDocument settings.outputPath) files =
      (.ok (), after)) :
    ∀ document ∈ documents,
      HoldsDocument after settings.outputPath
        (documentPlace files settings.outputPath document) document := by
  induction documents generalizing files with
  | nil => exact List.forall_mem_nil _
  | cons document documents induction =>
      obtain ⟨here, others⟩ := List.forall_mem_cons.mp inner
      obtain ⟨different, distinct⟩ := List.nodup_cons.mp distinct
      obtain ⟨_, middle, wrote, later⟩ := bind_succeeded ran
      have first : Extends (Target settings [document]) files middle :=
        extends_writeDocument List.mem_cons_self wrote
      have places := first.workingDirectory
      refine List.forall_mem_cons.mpr ⟨?_, ?_⟩
      · have held := holds_of_writeDocument wrote
        rw [lexicalLocation_documentFile files here] at held
        have rest := extends_writeDocuments (List.Subset.refl documents) later
        apply held.kept rest.toKeeps ?_ later
        apply Maintains.forM
        intro other listed
        apply Keeping.writable.writeDocument (others other listed)
        rw [← documentPlace_congr places]
        intro same
        apply different
        rw [← List.append_cancel_left same]
        exact List.mem_map_of_mem listed
      · have held := induction others distinct later
        intro other listed
        rw [← documentPlace_congr places]
        exact held other listed

theorem toHtml_ne_sitemap (document : Markup.Document) (base : String)
    (paths : List String) : document.toHtml ≠ Sitemap.text base paths := by
  intro same
  have second := congrArg (fun text => text.toList[1]?) same
  simp [Markup.Document.toHtml, Markup.Document.opening, Sitemap.text,
    Sitemap.declaration] at second

/-- The sitemap takes the place of a document with its name, and of no
other. -/
theorem stored_iff_of_writeSitemap {base : String}
    {document : RenderedDocument}
    (configured : settings.sitemapBase = some base)
    (held : HoldsDocument files settings.outputPath
      (documentPlace files settings.outputPath document) document)
    (ran : writeSitemap base settings.outputPath documents files =
      (.ok (), after)) :
    after.item? (documentPlace files settings.outputPath document) =
        some (.file (.text document.document.toHtml)) ↔
      document.names ≠ ["sitemap.xml"] := by
  constructor
  · intro stored same
    have sitemap := (holds_of_writeSitemap ran).stored
    rw [lexicalLocation_sitemap, ← same] at sitemap
    rw [documentPlace, sitemap] at stored
    injection stored with stored
    injection stored with stored
    injection stored with stored
    exact toHtml_ne_sitemap _ _ _ stored.symm
  · intro different
    have grown := extends_writeSitemap configured ran
    have kept := held.kept grown.toKeeps ?_ ran
    · exact kept.stored
    · apply Keeping.writable.writeSitemap
      intro same
      exact different (List.append_cancel_left same).symm

theorem workingDirectory_of_cleaned {emptied : FileSystem}
    (cleaned : if settings.clean then
        removeOutput settings.outputPath files = (.ok (), emptied)
      else emptied = files) :
    emptied.workingDirectory = files.workingDirectory := by
  split at cleaned
  · exact workingDirectory_removeOutput cleaned
  · rw [cleaned]

/-- After all that is written, the file of a document holds it unless it is the
file of the sitemap. -/
theorem stored_iff_of_writeOutput {variants : List (Page × String)}
    {document : RenderedDocument} {assets : Nat}
    (rendered : List.Forall₂ (Site.Renders settings.lang) variants documents)
    (distinct : (documents.map RenderedDocument.names).Nodup)
    (ran : writeOutput settings documents files = (.ok assets, after))
    (listed : document ∈ documents) :
    after.locate (documentFile settings.outputPath document) =
        .ok (documentPlace files settings.outputPath document) ∧
      (after.item? (documentPlace files settings.outputPath document) =
          some (.file (.text document.document.toHtml)) ↔
        ¬ (settings.sitemapBase.isSome ∧
          document.names = ["sitemap.xml"])) := by
  obtain ⟨emptied, copied, written, cleaned, assetsCopied, wrote, ended⟩ :=
    writeOutput_succeeded ran
  have inner := Site.Renders.inner_of_mem rendered
  have held := holds_of_writeDocuments inner distinct wrote document listed
  have copies : Extends (Target settings documents) emptied copied :=
    extends_writeAssets assetsCopied
  have copiedHere :=
    copies.workingDirectory.trans (workingDirectory_of_cleaned cleaned)
  have writes := extends_writeDocuments (List.Subset.refl documents) wrote
  have writtenHere := writes.workingDirectory.trans copiedHere
  rw [documentPlace_congr copiedHere, ← documentPlace_congr writtenHere] at held
  rw [← documentPlace_congr writtenHere]
  cases configured : settings.sitemapBase with
  | none =>
      simp only [configured] at ended
      subst ended
      simp [held.leads, held.stored]
  | some base =>
      simp only [configured] at ended
      refine ⟨(extends_writeSitemap configured ended).locate held.leads, ?_⟩
      simpa using stored_iff_of_writeSitemap configured held ended

/-- A build that succeeds has written each document to a file of its own below
the output directory.  The file still holds the document unless it is the file
of the sitemap. -/
theorem documents_survive_iff [WorkbookReader] {site : Site}
    {report : BuildReport}
    (loaded : load files settings = .ok site)
    (ran : run settings files = (.ok report, after)) :
    ∃ documents,
      List.Forall₂ (Site.Renders settings.lang) site.variants documents ∧
      report.documents = documents.length ∧
      (documents.map (documentPlace files settings.outputPath)).Nodup ∧
      ∀ document ∈ documents,
        after.locate (documentFile settings.outputPath document) =
          .ok (documentPlace files settings.outputPath document) ∧
        (after.item? (documentPlace files settings.outputPath document) =
            some (.file (.text document.document.toHtml)) ↔
          ¬ (settings.sitemapBase.isSome ∧
            document.names = ["sitemap.xml"])) := by
  rcases run_ran ran with ⟨error, failed, -⟩ |
    ⟨found, documents, result, -, prepared, wrote, same⟩
  · cases failed
  obtain ⟨here, rendered, distinct⟩ := prepare_eq_ok.mp prepared
  rw [loaded] at here
  cases here
  cases result with
  | error error => cases same
  | ok assets =>
      cases same
      refine ⟨documents, rendered, rfl, ?_, ?_⟩
      · have places : documents.map (documentPlace files settings.outputPath) =
            (documents.map RenderedDocument.names).map
              (lexicalLocation files settings.outputPath ++ ·) := by
          rw [List.map_map]
          rfl
        rw [places]
        exact List.Nodup.map (fun _ _ => List.append_cancel_left) distinct
      · intro document listed
        exact stored_iff_of_writeOutput rendered distinct wrote listed

/-! ## A document with the name of the sitemap -/

def sitemapSettings : BuildSettings :=
  { plainSettings with sitemapBase := some "https://example.org" }

def sitemapFiles : FileSystem :=
  siteFiles (pagesWorkbook [("index", "/index.html"), ("map", "/sitemap.xml")])

theorem run_sitemapFiles :
    run sitemapSettings sitemapFiles =
      (.ok ⟨2, 2, 0, ⟨"site/www"⟩⟩, (run sitemapSettings sitemapFiles).2) :=
  ran_of_outcome (Outcome.eq_ok_of_toOption (by decide +kernel))

theorem load_sitemapFiles :
    ∃ site, load sitemapFiles sitemapSettings = .ok site := by
  have loads :
      (load sitemapFiles sitemapSettings).toOption.isSome = true := by
    decide +kernel
  obtain ⟨site, loaded⟩ := Option.isSome_iff_exists.mp loads
  exact ⟨site, Outcome.eq_ok_of_toOption loaded⟩

theorem documents_survive_sitemapFiles :
    ∃ site, load sitemapFiles sitemapSettings = .ok site ∧
      run sitemapSettings sitemapFiles =
        (.ok ⟨2, 2, 0, ⟨"site/www"⟩⟩, (run sitemapSettings sitemapFiles).2) ∧
      ∃ documents,
        List.Forall₂ (Site.Renders sitemapSettings.lang) site.variants
          documents ∧
        2 = documents.length ∧
        ∀ document ∈ documents,
          (run sitemapSettings sitemapFiles).2.item? (documentPlace
              sitemapFiles sitemapSettings.outputPath document) =
            some (.file (.text document.document.toHtml)) ↔
          document.names ≠ ["sitemap.xml"] := by
  obtain ⟨site, loaded⟩ := load_sitemapFiles
  obtain ⟨documents, rendered, counted, -, survive⟩ :=
    documents_survive_iff loaded run_sitemapFiles
  refine ⟨site, loaded, run_sitemapFiles, documents, rendered, counted, ?_⟩
  intro document listed
  rw [(survive document listed).2]
  exact not_congr (and_iff_right rfl)

/-- Two documents are rendered and reported, but the file of the second holds
something else. -/
theorem document_lost_sitemapFiles :
    (run sitemapSettings sitemapFiles).1 = .ok ⟨2, 2, 0, ⟨"site/www"⟩⟩ ∧
      (prepare sitemapFiles sitemapSettings).toOption.map (fun loaded =>
          loaded.2.map fun document =>
            (documentPlace sitemapFiles sitemapSettings.outputPath document,
              document.document.toHtml)) =
        some
          [(["site", "www", "index.html"],
            "<!DOCTYPE html lang=\"en\"><html><body></body></html>"),
           (["site", "www", "sitemap.xml"],
            "<!DOCTYPE html lang=\"en\"><html><body></body></html>")] ∧
      (run sitemapSettings sitemapFiles).2.item?
          ["site", "www", "sitemap.xml"] ≠
        some (.file (.text
          "<!DOCTYPE html lang=\"en\"><html><body></body></html>")) := by
  refine ⟨congrArg Prod.fst run_sitemapFiles, ?_, ?_⟩
  · decide +kernel
  · decide +kernel

end WorkbookSite.Build

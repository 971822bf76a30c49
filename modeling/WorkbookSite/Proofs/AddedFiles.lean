import WorkbookSite.Proofs.MaintainedWrites
import WorkbookSite.Proofs.SuccessfulBuilds

/-!
# Files that are added

What a build writes is a document, the sitemap, or a copy of an asset.  Unless
the assets are stored in the output directory itself, each file holds what it
held before or what the build has to write there.
-/

namespace WorkbookSite.Build

open FileSystem CleanGuard FileAction

variable {settings : BuildSettings} {documents : List RenderedDocument}
  {start files after : FileSystem} {allowed : Location → Content → Prop}

/-! ## What is written -/

/-- The file system has grown, and each file holds what it held before or what
may be written there. -/
structure Adds (allowed : Location → Content → Prop)
    (start files : FileSystem) : Prop extends Keeps start files where
  named : files.Named
  written : ∀ ⦃place content⦄, files.item? place = some (.file content) →
    start.item? place = some (.file content) ∨ allowed place content

namespace Adds

theorem refl (named : start.Named) : Adds allowed start start :=
  ⟨.refl start, named, fun _ _ => .inl⟩

theorem mono {more : Location → Content → Prop}
    (adds : Adds allowed start files)
    (weaker : ∀ place content, allowed place content → more place content) :
    Adds more start files :=
  ⟨adds.toKeeps, adds.named,
    fun place content stored =>
      (adds.written stored).imp_right (weaker place content)⟩

theorem put_directory {place : Location} {name : String}
    (adds : Adds allowed start files) (proper : Path.IsFileName name)
    (absent : files.item? (place ++ [name]) = none) :
    Adds allowed start (files.put (place ++ [name]) .directory) := by
  refine ⟨adds.toKeeps.trans (.put_directory absent),
    adds.named.put proper, ?_⟩
  intro other content stored
  rw [item?_put _ _ (by simp)] at stored
  split at stored
  · cases stored
  · exact adds.written stored

theorem put_file {place : Location} {name : String} {content : Content}
    (adds : Adds allowed start files) (proper : Path.IsFileName name)
    (noDirectory : files.isDirectoryAt (place ++ [name]) = false)
    (listed : allowed (place ++ [name]) content) :
    Adds allowed start (files.put (place ++ [name]) (.file content)) := by
  refine ⟨adds.toKeeps.trans (.put_file content (by simp) noDirectory),
    adds.named.put proper, ?_⟩
  intro other latest stored
  rw [item?_put _ _ (by simp)] at stored
  split at stored
  · rename_i same
    cases stored
    exact .inr (same ▸ listed)
  · exact adds.written stored

/-- No file is put where only directories are made. -/
theorem writable (output : Path) :
    Writable (Adds allowed start) start.workingDirectory output
      (fun _ => False) := by
  constructor
  · intro files adds
    exact adds.workingDirectory
  · intro files passed name adds listed absent
    exact adds.put_directory
      (Path.isFileName_of_mem_components (name_mem_of_passed listed)) absent
  · intro files names name adds proper absent
    exact adds.put_directory proper absent
  · intro files names name content _ never
    exact never.elim

section

variable {output : Path} {names : List String}
  (proper : ∀ name ∈ names, Path.IsFileName name)
include proper

theorem writeFile {content : Content} (named : names ≠ [])
    (listed : allowed (lexicalLocation start output ++ names) content) :
    Maintains (Adds allowed start) (fun _ => True)
      (writeFile (output.join (.ofNames names)) content) := by
  apply maintains_writeFile
  intro files place adds leads noDirectory
  obtain ⟨above, name, rfl⟩ : ∃ above name, names = above ++ [name] :=
    ⟨_, _, (List.dropLast_concat_getLast named).symm⟩
  rw [lexicalLocation_join_ofNames files proper,
    lexicalLocation_congr adds.workingDirectory, ← List.append_assoc] at leads
  rw [← List.append_assoc] at listed
  subst leads
  exact adds.put_file (proper name (by simp)) noDirectory listed

/-- A file that is copied to another place is written there. -/
theorem copyFile {source : Location} {content : Content} (named : names ≠ [])
    (other : lexicalLocation start output ++ names ≠ source)
    (listed : allowed (lexicalLocation start output ++ names) content) :
    Maintains (Adds allowed start) (fun _ => True)
      (copyFile source content (output.join (.ofNames names))) := by
  intro files adds
  apply Establishes.andThen
  · intro refusal after failed
    exact ⟨(writeFile proper named listed adds failed).1, trivial⟩
  · intro place middle wrote
    obtain ⟨still, -⟩ := writeFile proper named listed adds wrote
    obtain ⟨rfl, -, -, leads⟩ := writeFile_succeeded wrote
    have here := locate_eq_lexicalLocation leads
    rw [lexicalLocation_join_ofNames _ proper,
      lexicalLocation_congr still.workingDirectory] at here
    rw [if_neg (here ▸ other)]
    exact Maintains.pure () still

end

end Adds

/-! ## Documents, the sitemap and assets -/

/-- The contents that a place can come to hold while assets are copied: what is
stored there, and what is copied there from a place that can hold it. -/
inductive Supplied (files : FileSystem) (source output : Location) :
    Location → Content → Prop where
  | stored {place : Location} {content : Content}
      (there : files.item? place = some (.file content)) :
      Supplied files source output place content
  | copied {names : List String} {content : Content}
      (before : Supplied files source output (source ++ names) content) :
      Supplied files source output (output ++ names) content

/-- The place is where the copy of an asset goes that is stored at another
place and can come to hold the content. -/
def Imported (files : FileSystem) (settings : BuildSettings)
    (place : Location) (content : Content) : Prop :=
  ∃ source names, files.locate settings.staticPath = .ok source ∧
    place = lexicalLocation files settings.outputPath ++ names ∧
    source ++ names ≠ place ∧
    Supplied files source (lexicalLocation files settings.outputPath)
      (source ++ names) content

/-- The place is that of a document or of the sitemap, and the content is what
it is to hold, if the output directory is at `output`. -/
inductive Published (settings : BuildSettings)
    (documents : List RenderedDocument) (output : Location) :
    Location → Content → Prop where
  | document {document : RenderedDocument} (listed : document ∈ documents) :
      Published settings documents output (output ++ document.names)
        (.text document.document.toHtml)
  | sitemap {base : String} (configured : settings.sitemapBase = some base) :
      Published settings documents output (output ++ ["sitemap.xml"])
        (.text (Sitemap.text base (documents.map (·.path))))

/-- Assets that are stored in another directory replace the files they are
copied to. -/
theorem adds_writeAssets (named : files.Named)
    (apart : ∀ source, files.locate settings.staticPath = .ok source →
      files.item? source = some .directory →
        source ≠ lexicalLocation files settings.outputPath) :
    Establishes files (Adds (Imported files settings) files)
      (fun _ => True)
      (writeAssets settings.staticPath settings.outputPath) := by
  have writable :=
    @Adds.writable files (Imported files settings) settings.outputPath
  apply writable.writeAssets_of_copies (fun _ adds => adds.named) (.refl named)
  intro source located directory latest names content adds inside proper stored
  have elsewhere :
      lexicalLocation files settings.outputPath ++ names ≠ source ++ names :=
    fun same =>
      apart source located directory (List.append_cancel_right same).symm
  apply Adds.copyFile proper inside elsewhere _ adds
  refine ⟨source, _, located, rfl, Ne.symm elsewhere, ?_⟩
  rcases adds.written stored with before | imported
  · exact .stored before
  · obtain ⟨same, others, leads, spelled, -, supplied⟩ := imported
    obtain rfl : same = source := by
      rw [located] at leads
      exact (Except.ok.inj leads).symm
    rw [spelled]
    exact .copied supplied

/-- Nothing is copied if the output directory cannot be made. -/
theorem adds_writeAssets_of_closed (named : files.Named)
    (closed : (makeDirectories (settings.outputPath.join (.ofNames []))
      files).1 ≠ .ok ()) :
    Establishes files (Adds allowed files) (fun _ => True)
      (writeAssets settings.staticPath settings.outputPath) := by
  have opens : ∀ {path : Path} {error : SiteError},
      path = settings.outputPath ∨
          path = settings.outputPath.join (.ofNames []) →
        Establishes files (Adds allowed files) (fun _ => True)
          ((makeDirectories path).orElseFail error) :=
    fun either => .orElseFail
      ((Adds.writable settings.outputPath).makeOutput either (.refl named))
  rcases writeAssets_eq files settings.staticPath settings.outputPath with
    ⟨-, same⟩ | ⟨source, -, -, same⟩
  · intro outcome after ran
    rw [same] at ran
    exact (opens (.inl rfl)).bind (fun _ => .pure 0) ran
  · intro outcome after ran
    rw [same] at ran
    rcases bind_ran ran with ⟨_, middle, made, -⟩ | ⟨error, made, -⟩
    · rw [orElseFail_succeeded made] at closed
      exact absurd rfl closed
    · exact ⟨(opens (.inr rfl) made).1, fun _ _ => trivial⟩

/-- What is written once the assets are copied is documents and the
sitemap. -/
theorem adds_writeContents
    (inner : ∀ document ∈ documents,
      Path.innerNames? ⟨document.path⟩ = some document.names)
    (published : ∀ place content,
      Published settings documents
        (lexicalLocation start settings.outputPath) place content →
          allowed place content)
    (assets : Establishes files (Adds allowed start) (fun _ => True)
      (writeAssets settings.staticPath settings.outputPath)) :
    Establishes files (Adds allowed start) (fun _ => True)
      (writeContents settings documents) := by
  apply establishes_writeContents assets
  · intro document listed
    obtain ⟨named, proper⟩ :=
      Path.isFileName_of_innerNames? (inner document listed)
    have file : documentFile settings.outputPath document =
        settings.outputPath.join (.ofNames document.names) := rfl
    apply maintains_writeDocument
    · rw [file]
      exact (Adds.writable _).makeParents proper
    · rw [file]
      exact Adds.writeFile proper named (published _ _ (.document listed))
  · intro base configured
    have name : (⟨"sitemap.xml"⟩ : Path) = .ofNames ["sitemap.xml"] := by
      decide
    have written : Maintains (Adds allowed start) (fun _ => True)
        (writeFile (settings.outputPath.join ⟨"sitemap.xml"⟩)
          (.text (Sitemap.text base (documents.map (·.path))))) := by
      rw [name]
      exact Adds.writeFile (by decide) (by simp)
        (published _ _ (.sitemap configured))
    apply Maintains.bind written.orElseFail
    intro _
    exact .pure ()

end WorkbookSite.Build

import WorkbookSite.Proofs.CleanBuild
import WorkbookSite.Proofs.MaintainedActions

/-!
# Invariants of builds

What the parts of a build maintain, the whole build maintains: the copy of the
assets, the documents one after the other, and the sitemap.
-/

namespace WorkbookSite

open FileSystem FileAction

variable {files : FileSystem} {invariant : FileSystem → Prop}

namespace Assets

variable {fault : SiteError → Prop} {source : Location} {target : Path}

theorem maintains_copyInside
    {copyInside : List String → FileAction SiteError Nat}
    {names children : List String} (count : Nat)
    (inside : ∀ child ∈ children,
      Maintains invariant fault (copyInside (names ++ [child]))) :
    Maintains invariant fault
      (children.foldlM (fun count child => do
        let copied ← copyInside (names ++ [child])
        pure (count + copied)) count) := by
  apply Maintains.foldlM
  intro total child listed
  apply Maintains.bind (inside child listed)
  intro copied
  exact .pure _

/-- What it takes to copy the places that can be reached.  There is an invariant
for each directory, which holds while what is inside it is copied. -/
structure Copyable (invariant : List String → FileSystem → Prop)
    (fault : SiteError → Prop) (source : Location) (target : Path)
    (reached : List String → Prop) (levels : Nat) : Prop where
  leave : ∀ ⦃files names child⦄, invariant (names ++ [child]) files →
    invariant names files
  /-- What is inside a place that can be reached can be reached. -/
  inside : ∀ ⦃files names child inner⦄, invariant names files →
    reached (names ++ [child]) →
      inner ∈ files.children (source ++ (names ++ [child])) →
        reached (names ++ [child] ++ [inner])
  /-- Where the levels run out, this is a fault. -/
  deep : ∀ ⦃names⦄, reached names → levels ≤ names.length →
    fault (.write (target.join (.ofNames names)))
  file : ∀ ⦃files names child content⦄, invariant names files →
    reached (names ++ [child]) →
      files.item? (source ++ (names ++ [child])) = some (.file content) →
        Establishes files (invariant names)
          (fun _ => fault (.write (target.join (.ofNames (names ++ [child])))))
          (copyFile (source ++ (names ++ [child])) content
            (target.join (.ofNames (names ++ [child]))))
  directory : ∀ ⦃files names child outcome after⦄, invariant names files →
    reached (names ++ [child]) →
      files.item? (source ++ (names ++ [child])) = some .directory →
        makeDirectories (target.join (.ofNames (names ++ [child]))) files =
            (outcome, after) →
          (outcome = .ok () → invariant (names ++ [child]) after) ∧
            ∀ refusal, outcome = .error refusal → invariant names after ∧
              fault (.write (target.join (.ofNames (names ++ [child]))))

theorem Copyable.maintains {invariant : List String → FileSystem → Prop}
    {reached : List String → Prop} {total levels : Nat} {child : String}
    (copyable : Copyable invariant fault source target reached total)
    (names : List String) (reaches : reached (names ++ [child]))
    (enough : total ≤ (names ++ [child]).length + levels) :
    Maintains (invariant names) fault
      (copyPlace source target levels (names ++ [child])) := by
  induction levels generalizing names child with
  | zero => exact .throw (copyable.deep reaches enough)
  | succ levels induction =>
      rw [copyPlace]
      apply Maintains.get_bind
      intro files holds
      cases stored : files.item? (source ++ (names ++ [child])) with
      | none => exact Maintains.pure 0 holds
      | some item =>
          cases item with
          | file content =>
              apply Establishes.bind
                (copyable.file holds reaches stored).orElseFail
              intro _
              exact .pure 1
          | directory =>
              apply Establishes.andThen
              · intro error after stopped
                obtain ⟨result, made, failed⟩ := orElseFail_ran stopped
                obtain ⟨refusal, refused, rfl⟩ :=
                  Outcome.mapError_eq_error.mp failed
                exact (copyable.directory holds reaches stored made).2
                  refusal refused
              · intro _ middle ran
                obtain ⟨result, made, succeeded⟩ := orElseFail_ran ran
                have entered := (copyable.directory holds reaches stored made).1
                  (Outcome.mapError_eq_ok.mp succeeded)
                have copied :
                    Maintains (invariant (names ++ [child])) fault _ :=
                  maintains_copyInside 0 fun inner listed =>
                    induction _ (copyable.inside holds reaches listed) (by
                      simp only [List.length_append, List.length_singleton]
                        at enough ⊢
                      omega)
                exact (copied entered).mono
                  (fun _ inner => copyable.leave inner) (fun _ => id)

end Assets

namespace Build

variable {fault : SiteError → Prop} {settings : BuildSettings}
  {documents : List RenderedDocument}

theorem maintains_writeDocument {output : Path} {document : RenderedDocument}
    (parents : Maintains invariant
      (fun _ => fault (.write (documentFile output document)))
      (makeParents (documentFile output document)))
    (written : Maintains invariant
      (fun _ => fault (.write (documentFile output document)))
      (writeFile (documentFile output document)
        (.text document.document.toHtml))) :
    Maintains invariant fault (writeDocument output document) := by
  apply Maintains.bind parents.orElseFail
  intro _
  apply Maintains.bind written.orElseFail
  intro _
  exact .pure ()

theorem maintains_writeSitemap {base : String} {output : Path}
    (written : ∀ content, Maintains invariant
      (fun _ => fault (.write (output.join ⟨"sitemap.xml"⟩)))
      (writeFile (output.join ⟨"sitemap.xml"⟩) content)) :
    Maintains invariant fault (writeSitemap base output documents) := by
  apply Maintains.bind (written _).orElseFail
  intro _
  exact .pure ()

/-- Without assets an empty output directory is made; otherwise it is made when
the assets are entered, which are listed just before. -/
theorem writeAssets_eq (files : FileSystem) (source output : Path) :
    files.isDirectory source = false ∧
        writeAssets source output files = (do
          (makeDirectories output).orElseFail (.write output)
          pure 0 : FileAction SiteError Nat) files ∨
      ∃ location, files.locate source = .ok location ∧
        files.item? location = some .directory ∧
        writeAssets source output files = (do
          (makeDirectories (output.join (.ofNames []))).orElseFail
            (.write (output.join (.ofNames [])))
          (files.children location).foldlM (fun count child => do
            let copied ← Assets.copyPlace location output
              (files.items.length + output.components.length) ([] ++ [child])
            pure (count + copied)) 0 : FileAction SiteError Nat) files := by
  rw [writeAssets, get_bind_eq]
  cases present : files.isDirectory source with
  | false => exact .inl ⟨rfl, rfl⟩
  | true =>
      rw [isDirectory, find?] at present
      cases located : files.locate source with
      | error refusal => simp [located] at present
      | ok location =>
          have directory : files.item? location = some .directory := by
            simpa [located] using present
          refine .inr ⟨location, rfl, directory, ?_⟩
          rw [if_pos rfl, Assets.copyTree, get_bind_eq]
          simp only [located, Assets.copyPlace, Assets.copyItem]
          rw [get_bind_eq, List.append_nil]
          simp only [directory]

theorem establishes_writeAssets {source output : Path}
    (opened : ∀ path, path = output ∨ path = output.join (.ofNames []) →
      Establishes files invariant (fun _ => fault (.write path))
        (makeDirectories path))
    (copied : ∀ location, files.locate source = .ok location →
      files.item? location = some .directory →
        ∀ name ∈ files.children location,
          Maintains invariant fault
            (Assets.copyPlace location output
              (files.items.length + output.components.length)
              ([] ++ [name]))) :
    Establishes files invariant fault (writeAssets source output) := by
  intro outcome after ran
  rcases writeAssets_eq files source output with
    ⟨-, same⟩ | ⟨location, located, directory, same⟩
  · rw [same] at ran
    refine Establishes.bind (opened output (.inl rfl)).orElseFail ?_ ran
    intro _
    exact .pure 0
  · rw [same] at ran
    refine Establishes.bind (opened _ (.inr rfl)).orElseFail ?_ ran
    intro _
    apply Assets.maintains_copyInside
    intro child listed
    exact copied location located directory child listed

theorem establishes_writeContents
    (assets : Establishes files invariant fault
      (writeAssets settings.staticPath settings.outputPath))
    (each : ∀ document ∈ documents, Maintains invariant fault
      (writeDocument settings.outputPath document))
    (sitemap : ∀ base, settings.sitemapBase = some base →
      Maintains invariant fault
        (writeSitemap base settings.outputPath documents)) :
    Establishes files invariant fault (writeContents settings documents) := by
  apply Establishes.bind assets
  intro count
  apply Maintains.bind (Maintains.forM each)
  intro _
  cases configured : settings.sitemapBase with
  | none => exact .pure count
  | some base =>
      apply Maintains.bind (sitemap base configured)
      intro _
      exact .pure count

/-- What is to hold after all that a build writes: after a removal that fails,
and after what is written once older output is out of the way. -/
theorem establishes_writeOutput
    (stopped : ∀ error after, settings.clean = true →
      removeOutput settings.outputPath files = (.error error, after) →
        invariant after ∧ fault error)
    (assets : ∀ emptied,
      (if settings.clean then
        removeOutput settings.outputPath files = (.ok (), emptied)
      else emptied = files) →
        Establishes emptied invariant fault
          (writeAssets settings.staticPath settings.outputPath))
    (each : ∀ document ∈ documents, Maintains invariant fault
      (writeDocument settings.outputPath document))
    (sitemap : ∀ base, settings.sitemapBase = some base →
      Maintains invariant fault
        (writeSitemap base settings.outputPath documents)) :
    Establishes files invariant fault (writeOutput settings documents) := by
  rw [writeOutput_eq]
  cases clean : settings.clean with
  | false =>
      simp only [clean, Bool.false_eq_true, if_false] at assets ⊢
      exact establishes_writeContents (assets files rfl) each sitemap
  | true =>
      simp only [clean, if_true] at assets ⊢
      apply Establishes.andThen
      · intro error after failed
        exact stopped error after clean failed
      · intro _ emptied removed
        exact establishes_writeContents (assets emptied removed) each sitemap

end Build

end WorkbookSite

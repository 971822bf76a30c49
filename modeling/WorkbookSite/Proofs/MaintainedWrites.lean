import WorkbookSite.Proofs.FileTrees
import WorkbookSite.Proofs.MaintainedBuilds

/-!
# Invariants of writes

All a build does to the files, once older output is out of the way, is to put
directories and files: directories named on the way to the output directory,
and directories and files below it.  An invariant that is kept whenever one of
them is put is kept by each part of the build.
-/

namespace WorkbookSite

open CleanGuard FileAction

variable {invariant : FileSystem → Prop}

namespace FileSystem

theorem maintains_makeAlong {here : Location} {components : List Component}
    (grows : ∀ ⦃files passed name⦄, invariant files →
      passed ++ [.name name] <+: components →
        files.item? (resolve here passed ++ [name]) = none →
          invariant (files.put (resolve here passed ++ [name]) .directory)) :
    Maintains invariant (fun _ => True) (makeAlong here components) := by
  induction components generalizing here with
  | nil => exact .pure ()
  | cons component components induction =>
      have rest : Maintains invariant (fun _ => True)
          (makeAlong (resolve here [component]) components) := by
        apply induction
        intro files passed name holds listed absent
        rw [← resolve_append, List.singleton_append] at absent ⊢
        exact grows holds (List.cons_prefix_cons.mpr ⟨rfl, listed⟩) absent
      cases component with
      | root | current | parent => exact rest
      | name name =>
          apply Maintains.get_bind
          intro files holds
          cases stored : files.item? (here ++ [name]) with
          | some item =>
              cases item with
              | directory => exact rest holds
              | file content => exact Maintains.throw trivial holds
          | none =>
              have made := @grows files [] name holds
                (List.cons_prefix_cons.mpr ⟨rfl, List.nil_prefix⟩) stored
              cases long : isNameTooLong name with
              | true => exact Maintains.throw trivial holds
              | false => exact rest made

theorem maintains_makeDirectories {home : Location} {path : Path}
    (settled : ∀ ⦃files⦄, invariant files → files.workingDirectory = home)
    (along : ∀ {components}, components <+: path.components →
      Maintains invariant (fun _ => True) (makeAlong home components)) :
    Maintains invariant (fun _ => True) (makeDirectories path) := by
  apply Maintains.get_bind
  intro files holds
  rw [settled holds]
  split
  · apply Establishes.bind (along (List.dropLast_prefix _) holds)
    intro _
    apply Maintains.get_bind
    intro files holds
    cases files.locate path with
    | ok place => exact Maintains.pure () holds
    | error refusal => exact Maintains.throw trivial holds
  · exact along List.prefix_rfl holds

theorem maintains_writeFile {path : Path} {content : Content}
    (kept : ∀ ⦃files place⦄, invariant files →
      place = lexicalLocation files path → files.isDirectoryAt place = false →
        invariant (files.put place (.file content))) :
    Maintains invariant (fun _ => True) (writeFile path content) := by
  intro files holds outcome after ran
  refine ⟨?_, fun _ _ => trivial⟩
  rcases writeFile_ran ran with ⟨refusal, -, rfl⟩ |
    ⟨place, -, rfl, -, noDirectory, leads, -⟩
  · exact holds
  · have here := locate_eq_lexicalLocation leads
    rw [lexicalLocation_put] at here
    exact kept holds here noDirectory

theorem maintains_copyFile {source : Location} {content : Content}
    {path : Path}
    (kept : ∀ ⦃files place content⦄, invariant files →
      place = lexicalLocation files path → files.isDirectoryAt place = false →
        invariant (files.put place (.file content))) :
    Maintains invariant (fun _ => True) (copyFile source content path) := by
  intro files holds
  apply Establishes.andThen
  · intro refusal after failed
    exact maintains_writeFile (fun _ _ => @kept _ _ content) holds failed
      |>.imp_right fun _ => trivial
  · intro place middle wrote
    obtain ⟨still, -⟩ :=
      maintains_writeFile (fun _ _ => @kept _ _ content) holds wrote
    rcases writeFile_ran wrote with ⟨refusal, failed, -⟩ |
      ⟨written, same, rfl, inside, -, leads, -⟩
    · cases failed
    · cases same
      split
      · intro outcome after emptied
        obtain rfl := (Prod.mk.inj emptied).2
        refine ⟨?_, fun _ _ => trivial⟩
        apply kept still (locate_eq_lexicalLocation leads)
        rw [isDirectoryAt, item?_put _ _ inside, if_pos rfl]
        rfl
      · exact Maintains.pure () still

end FileSystem

namespace Build

open FileSystem

/-- What it takes to write below an output directory while an invariant is
kept: it is kept when a directory is put where a path to the output directory
or below it names one, and when a file with names that are free is put below
the output directory. -/
structure Writable (invariant : FileSystem → Prop) (home : Location)
    (output : Path) (free : List String → Prop) : Prop where
  settled : ∀ ⦃files⦄, invariant files → files.workingDirectory = home
  onTheWay : ∀ ⦃files passed name⦄, invariant files →
    passed ++ [.name name] <+: output.components →
      files.item? (resolve home passed ++ [name]) = none →
        invariant (files.put (resolve home passed ++ [name]) .directory)
  directory : ∀ ⦃files names name⦄, invariant files →
    Path.IsFileName name →
      files.item? (resolve home output.components ++ names ++ [name]) = none →
        invariant (files.put
          (resolve home output.components ++ names ++ [name]) .directory)
  file : ∀ ⦃files names name content⦄, invariant files →
    free (names ++ [name]) → Path.IsFileName name →
      files.isDirectoryAt
          (resolve home output.components ++ names ++ [name]) = false →
        invariant (files.put
          (resolve home output.components ++ names ++ [name]) (.file content))

theorem name_mem_of_passed {path : Path} {passed : List Component}
    {name : String} (listed : passed ++ [.name name] <+: path.components) :
    .name name ∈ path.components :=
  listed.subset (List.mem_append_right _ List.mem_cons_self)

namespace Writable

variable {home : Location} {output : Path} {free : List String → Prop}
  {names : List String}
  (writable : Writable invariant home output free)
include writable

section Names

variable (proper : ∀ name ∈ names, Path.IsFileName name)
include proper

/-- Directories are made along a path below the output directory, each step of
which is one to the output directory or one after it. -/
theorem along {components : List Component}
    (listed : components <+: (output.join (.ofNames names)).components) :
    Maintains invariant (fun _ => True) (makeAlong home components) := by
  apply maintains_makeAlong
  intro files passed name holds here absent
  have whole := here.trans listed
  have fileName := Path.isFileName_of_mem_components (name_mem_of_passed whole)
  rw [Path.components_join_ofNames proper] at whole
  rcases Path.snoc_prefix_append_cases whole with
    before | ⟨between, rfl, beyond⟩
  · exact writable.onTheWay holds before absent
  · obtain ⟨later, spelled⟩ := beyond
    rw [List.append_assoc] at spelled
    obtain ⟨below, _, -, rfl, -⟩ := List.map_eq_append_iff.mp spelled.symm
    rw [resolve_append, resolve_names] at absent ⊢
    exact writable.directory holds fileName absent

theorem makeDirectories :
    Maintains invariant (fun _ => True)
      (makeDirectories (output.join (.ofNames names))) :=
  maintains_makeDirectories writable.settled fun listed =>
    writable.along proper listed

theorem makeParents :
    Maintains invariant (fun _ => True)
      (makeParents (output.join (.ofNames names))) := by
  apply Maintains.get_bind
  intro files holds
  rw [writable.settled holds]
  exact writable.along proper (List.dropLast_prefix _) holds

variable (named : names ≠ []) (allowed : free names)
include named allowed

theorem put_file ⦃files : FileSystem⦄ ⦃place : Location⦄
    ⦃content : Content⦄ (holds : invariant files)
    (leads : place = lexicalLocation files (output.join (.ofNames names)))
    (noDirectory : files.isDirectoryAt place = false) :
    invariant (files.put place (.file content)) := by
  obtain ⟨before, last, rfl⟩ : ∃ before last, names = before ++ [last] :=
    ⟨_, _, (List.dropLast_concat_getLast named).symm⟩
  rw [lexicalLocation_join_ofNames files proper, lexicalLocation,
    writable.settled holds, ← List.append_assoc] at leads
  rw [leads] at noDirectory ⊢
  exact writable.file holds allowed (proper last (by simp)) noDirectory

theorem writeFile (content : Content) :
    Maintains invariant (fun _ => True)
      (writeFile (output.join (.ofNames names)) content) :=
  maintains_writeFile fun _ _ =>
    @put_file _ _ _ _ _ writable proper named allowed _ _ content

theorem copyFile (source : Location) (content : Content) :
    Maintains invariant (fun _ => True)
      (copyFile source content (output.join (.ofNames names))) :=
  maintains_copyFile (writable.put_file proper named allowed)

end Names

theorem writeDocument {document : RenderedDocument}
    (inner : Path.innerNames? ⟨document.path⟩ = some names)
    (allowed : free names) :
    Maintains invariant (fun _ => True) (writeDocument output document) := by
  obtain ⟨named, proper⟩ := Path.isFileName_of_innerNames? inner
  have file : documentFile output document = output.join (.ofNames names) := by
    rw [documentFile, inner, Option.getD_some]
  apply maintains_writeDocument
  · rw [file]
    exact writable.makeParents proper
  · rw [file]
    exact writable.writeFile proper named allowed _

theorem writeSitemap {base : String} {documents : List RenderedDocument}
    (allowed : free ["sitemap.xml"]) :
    Maintains invariant (fun _ => True)
      (writeSitemap base output documents) := by
  apply maintains_writeSitemap
  intro content
  have name : (⟨"sitemap.xml"⟩ : Path) = .ofNames ["sitemap.xml"] := by decide
  rw [name]
  exact writable.writeFile (by decide) (by simp) allowed content

/-- The output directory is made in two ways: as it is, and as the copy of the
directory of the assets. -/
theorem makeOutput {path : Path}
    (either : path = output ∨ path = output.join (.ofNames [])) :
    Maintains invariant (fun _ => True)
      (FileSystem.makeDirectories path) := by
  have none := List.forall_mem_nil Path.IsFileName
  rcases either with rfl | rfl
  · apply maintains_makeDirectories writable.settled
    intro components listed
    apply writable.along none
    rwa [Path.components_join_nil]
  · exact writable.makeDirectories none

/-- Assets can be copied if each of the files among them can be. -/
theorem writeAssets_of_copies {source : Path} {files : FileSystem}
    (named : ∀ ⦃files⦄, invariant files → files.Named)
    (holds : invariant files)
    (copied : ∀ location, files.locate source = .ok location →
      files.item? location = some .directory →
        ∀ ⦃latest names content⦄, invariant latest → names ≠ [] →
          (∀ name ∈ names, Path.IsFileName name) →
            latest.item? (location ++ names) = some (.file content) →
              Establishes latest invariant (fun _ => True)
                (FileSystem.copyFile (location ++ names) content
                  (output.join (.ofNames names)))) :
    Establishes files invariant (fun _ => True)
      (Build.writeAssets source output) := by
  apply establishes_writeAssets
  · intro path either
    exact writable.makeOutput either holds
  · intro location located directory name listed
    have copyable : Assets.Copyable (fun _ => invariant) (fun _ => True)
        location output (fun names => ∀ name ∈ names, Path.IsFileName name)
        (files.items.length + output.components.length + 1) := by
      constructor
      · intro latest names child holds
        exact holds
      · intro latest names child inner holds proper listed name either
        rcases List.mem_append.mp either with earlier | last
        · exact proper name earlier
        · rw [List.mem_singleton.mp last]
          exact (named holds).of_mem_children listed
      · intro names _ _
        trivial
      · intro latest names child content holds proper stored
        exact copied location located directory holds (by simp) proper stored
      · intro latest names child outcome after holds proper _ made
        have kept := (writable.makeDirectories proper holds made).1
        exact ⟨fun _ => kept, fun _ _ => ⟨kept, trivial⟩⟩
    apply copyable.maintains []
    · intro other same
      rw [List.mem_singleton.mp same]
      exact (named holds).of_mem_children listed
    · rw [List.nil_append, List.length_singleton]
      omega

theorem writeAssets {source : Path} (everything : ∀ names, free names)
    (named : ∀ ⦃files⦄, invariant files → files.Named) :
    Maintains invariant (fun _ => True) (writeAssets source output) :=
  fun _ holds => writable.writeAssets_of_copies named holds
    fun _ _ _ _ _ _ holds inside proper _ =>
      writable.copyFile proper inside (everything _) _ _ holds

/-- What holds once older output is out of the way holds after all that is
written. -/
theorem writeOutput {settings : BuildSettings}
    {documents : List RenderedDocument} {files : FileSystem}
    (same : output = settings.outputPath) (everything : ∀ names, free names)
    (named : ∀ ⦃files⦄, invariant files → files.Named)
    (inner : ∀ document ∈ documents,
      ∃ names, Path.innerNames? ⟨document.path⟩ = some names)
    (start : invariant files)
    (removed : ∀ ⦃outcome after⦄,
      removeOutput settings.outputPath files = (outcome, after) →
        invariant after) :
    Establishes files invariant (fun _ => True)
      (writeOutput settings documents) := by
  subst same
  apply establishes_writeOutput
  · intro error after _ failed
    exact ⟨removed failed, trivial⟩
  · intro emptied cleaned
    apply writable.writeAssets everything named
    split at cleaned
    · exact removed cleaned
    · rw [cleaned]
      exact start
  · intro document listed
    obtain ⟨names, here⟩ := inner document listed
    exact writable.writeDocument here (everything names)
  · intro base _
    exact writable.writeSitemap (everything _)

end Writable

end Build

end WorkbookSite

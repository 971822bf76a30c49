import WorkbookSite.CommandLine.Scaffold
import WorkbookSite.Proofs.MaintainedWrites
import WorkbookSite.Proofs.ReopenedDirectories

/-!
# Sites with starter files

The starter files are put into a site directory one after the other, and any
step may fail.  Unless files may be replaced, a step leaves alone what is there
already; and if they may, nothing is replaced but a starter file.
-/

namespace WorkbookSite

open FileSystem FileAction CleanGuard

variable {files after : FileSystem}

namespace FileSystem

/-- Everything that was there is still there as it was. -/
structure Spares (before after : FileSystem) : Prop where
  workingDirectory : after.workingDirectory = before.workingDirectory
  item : ∀ ⦃place item⦄, before.item? place = some item →
    after.item? place = some item

namespace Spares

variable {start : FileSystem}

theorem refl (files : FileSystem) : Spares files files :=
  ⟨rfl, fun _ _ stored => stored⟩

theorem put_absent {place : Location} {item : Item}
    (spares : Spares start files) (absent : files.item? place = none) :
    Spares start (files.put place item) := by
  have inside : place ≠ [] := ne_root_of_item? absent (by simp)
  refine ⟨spares.workingDirectory, ?_⟩
  intro other kept stored
  have before := spares.item stored
  rw [item?_put _ _ inside, if_neg]
  · exact before
  · rintro rfl
    rw [absent] at before
    cases before

end Spares

theorem maintains_spares_makeDirectories (start : FileSystem) (path : Path) :
    Maintains (Spares start) (fun _ => True) (makeDirectories path) :=
  maintains_makeDirectories (fun _ spares => spares.workingDirectory)
    fun _ => maintains_makeAlong fun _ _ _ spares _ absent =>
      spares.put_absent absent

/-- Writing over a file does not change where paths lead. -/
theorem Keeps.of_put_file {place : Location} {previous content : Content}
    (stored : files.item? place = some (.file previous)) :
    Keeps (files.put place (.file content)) files := by
  have inside : place ≠ [] := ne_root_of_item? stored (by simp)
  constructor
  · rfl
  · intro other found
    rw [item?_put _ _ inside] at found
    split at found
    · cases found
    · exact found
  · intro other latest found
    rw [item?_put _ _ inside] at found
    split at found
    · rename_i same
      rw [same]
      exact ⟨previous, stored⟩
    · exact ⟨latest, found⟩

/-- Where a path leads nowhere, there is nothing that a file written to it
could take the place of. -/
theorem maintains_spares_writeFile (start : FileSystem) {path : Path}
    {content : Content} (absent : files.pathExists path = false) :
    Spares start files → Establishes files (Spares start) (fun _ => True)
      (writeFile path content) := by
  intro spares outcome after ran
  refine ⟨?_, fun _ _ => trivial⟩
  rcases writeFile_ran ran with ⟨refusal, -, rfl⟩ |
    ⟨place, -, rfl, -, noDirectory, leads, -⟩
  · exact spares
  · apply spares.put_absent
    cases stored : files.item? place with
    | none => rfl
    | some item =>
        cases item with
        | directory =>
            rw [isDirectoryAt, stored] at noDirectory
            cases noDirectory
        | file previous =>
            have located := (Keeps.of_put_file stored).locate leads
            rw [pathExists, find?, located] at absent
            simp [stored] at absent

end FileSystem

namespace Scaffold

variable {invariant : FileSystem → Prop} {overwrite : Bool}
  {directory path : Path} {content : Content} {error : ScaffoldError}

/-- The starter files of a site directory, with what they hold. -/
def starterFiles (directory : Path) : List (Path × Content) :=
  let spec := directory.join ⟨"spec"⟩
  [(directory.join ⟨"site.toml"⟩, configuration),
   (spec.join ⟨"site.xlsx"⟩, workbook),
   ((spec.join ⟨"static"⟩).join ⟨"style.css"⟩, style)]

theorem maintains_writeNew
    (written : ∀ ⦃files⦄, invariant files →
      (overwrite = true ∨ files.pathExists path = false) →
        Establishes files invariant (fun _ => True)
          (writeFile path content)) :
    Maintains invariant (fun _ => True)
      (writeNew overwrite path content error) := by
  apply Maintains.get_bind
  intro files holds
  split
  · rename_i allowed
    simp only [Bool.or_eq_true, Bool.not_eq_true'] at allowed
    exact (written holds allowed).orElseFail.bind fun _ => .pure ()
  · exact Maintains.pure () holds

/-- The starter files are written one after the other. -/
def writeFiles (directory : Path) (overwrite : Bool) :
    FileAction ScaffoldError Unit := do
  let spec := directory.join ⟨"spec"⟩
  writeNew overwrite (directory.join ⟨"site.toml"⟩) configuration .configuration
  writeNew overwrite (spec.join ⟨"site.xlsx"⟩) workbook .workbook
  writeNew overwrite ((spec.join ⟨"static"⟩).join ⟨"style.css"⟩) style .style

/-- Where there is no spec directory, or files may be replaced, directories are
made and the files are written; elsewhere nothing is done. -/
theorem write_eq (directory : Path) (overwrite : Bool) (files : FileSystem) :
    write directory overwrite files =
      if !files.pathExists (directory.join ⟨"spec"⟩) || overwrite then
        ((makeDirectories ((directory.join ⟨"spec"⟩).join
            ⟨"static"⟩)).orElseFail .directory >>= fun _ =>
          writeFiles directory overwrite) files
      else (.ok (), files) := by
  rw [write, get_bind_eq]
  split <;> rfl

/-- What writing each of the files maintains, writing them all maintains. -/
theorem maintains_writeFiles
    (written : ∀ ⦃path content⦄, (path, content) ∈ starterFiles directory →
      ∀ ⦃files⦄, invariant files →
        (overwrite = true ∨ files.pathExists path = false) →
          Establishes files invariant (fun _ => True)
            (writeFile path content)) :
    Maintains invariant (fun _ => True) (writeFiles directory overwrite) := by
  apply Maintains.bind (maintains_writeNew (written (by simp [starterFiles])))
  intro _
  apply Maintains.bind (maintains_writeNew (written (by simp [starterFiles])))
  intro _
  exact maintains_writeNew (written (by simp [starterFiles]))

theorem maintains_write
    (made : Maintains invariant (fun _ => True)
      (makeDirectories ((directory.join ⟨"spec"⟩).join ⟨"static"⟩)))
    (written : Maintains invariant (fun _ => True)
      (writeFiles directory overwrite)) :
    Maintains invariant (fun _ => True) (write directory overwrite) := by
  intro files holds outcome after ran
  rw [write_eq] at ran
  split at ran
  · exact (made.orElseFail.bind fun _ => written) holds ran
  · exact Maintains.pure () holds ran

/-- Unless files may be replaced, everything that is there is left as it is. -/
theorem spares_of_write {outcome : Except ScaffoldError Unit}
    (ran : write directory false files = (outcome, after)) :
    Spares files after := by
  refine (maintains_write (maintains_spares_makeDirectories files _)
    (maintains_writeFiles ?_) (.refl files) ran).1
  intro path content _ middle spares allowed
  exact maintains_spares_writeFile files
    (allowed.resolve_left Bool.false_ne_true) spares

/-- The path and content of a starter file. -/
def IsStarter (directory : Path) (_ : FileSystem) (path : Path)
    (content : Content) : Prop :=
  (path, content) ∈ starterFiles directory

theorem persistent_isStarter (directory : Path) :
    Persistent (IsStarter directory) :=
  fun _ _ _ _ _ listed => listed

theorem maintains_extends_writeFiles (start : FileSystem) :
    Maintains (Extends (IsStarter directory) start) (fun _ => True)
      (writeFiles directory overwrite) := by
  apply maintains_writeFiles
  intro path content listed files grown _ outcome after ran
  have persistent := persistent_isStarter directory
  exact ⟨grown.trans persistent (extends_writeFile persistent listed ran),
    fun _ _ => trivial⟩

/-- No file is changed but a starter file. -/
theorem extends_of_write {outcome : Except ScaffoldError Unit}
    (ran : write directory overwrite files = (outcome, after)) :
    Extends (IsStarter directory) files after := by
  have persistent := persistent_isStarter directory
  refine (maintains_write ?_ (maintains_extends_writeFiles files)
    (.refl files) ran).1
  intro middle grown outcome after made
  exact ⟨grown.trans persistent (extends_makeDirectories persistent made),
    fun _ _ => trivial⟩

theorem write_of_pathExists
    (present : files.pathExists (directory.join ⟨"spec"⟩) = true) :
    write directory false files = (.ok (), files) := by
  rw [write_eq, present]
  rfl

/-- The directory above one that was made is there. -/
theorem pathExists_of_makeDirectories {middle : FileSystem} {path : Path}
    {above name : String} (tree : files.IsTree)
    (proper : Path.IsFileName above) (properName : Path.IsFileName name)
    (made : makeDirectories ((path.join (.ofNames [above])).join
      (.ofNames [name])) files = (.ok (), middle))
    (keeps : Keeps middle after) :
    after.pathExists (path.join (.ofNames [above])) = true := by
  have opened := opened_of_makeDirectories tree made
  have way : middle.OpenTo (path.join (.ofNames [above])) := by
    intro passed listed
    apply opened.way
    rw [Path.components_join_ofNames (by simpa using properName)]
    exact listed.trans (List.prefix_append ..)
  have leads := (way.leadsTo opened.tree).keeps keeps
  have written : (path.join (.ofNames [above])).isEmpty = false := by
    apply isEmpty_eq_false_of_steps
    rw [Path.steps_join_ofNames (by simpa using proper)]
    simp
  rw [pathExists, find?, leads.locate written]
  simp [leads.directory]

/-- After a successful run the spec directory is there. -/
theorem pathExists_of_write (tree : files.IsTree)
    (ran : write directory overwrite files = (.ok (), after)) :
    after.pathExists (directory.join ⟨"spec"⟩) = true := by
  rw [write_eq] at ran
  split at ran
  · obtain ⟨_, middle, made, wrote⟩ := bind_succeeded ran
    have grown := (maintains_extends_writeFiles middle (.refl middle) wrote).1
    exact pathExists_of_makeDirectories tree (by decide) (by decide)
      (orElseFail_succeeded made) grown.toKeeps
  · rename_i refused
    cases ran
    simp only [Bool.or_eq_true, Bool.not_eq_true', not_or, Bool.not_eq_false]
      at refused
    exact refused.1

/-- Without leave to replace files, a scaffold leaves everything that is there
as it is, however it ends; where there is a spec directory it changes nothing,
and neither does a second run after one that succeeded.  With leave to replace
them, it replaces no files but starter files. -/
theorem write_spares_files (tree : files.IsTree) (directory : Path) :
    (∀ outcome after, write directory false files = (outcome, after) →
      Spares files after ∧
        (files.pathExists (directory.join ⟨"spec"⟩) = true →
          outcome = .ok () ∧ after = files) ∧
        (outcome = .ok () → write directory false after = (.ok (), after))) ∧
      ∀ outcome after, write directory true files = (outcome, after) →
        after.workingDirectory = files.workingDirectory ∧
          (∀ place, files.item? place = some .directory →
            after.item? place = some .directory) ∧
          ∀ place content, files.item? place = some (.file content) →
            after.item? place = some (.file content) ∨
              ∃ path latest, (path, latest) ∈ starterFiles directory ∧
                after.locate path = .ok place ∧
                after.item? place = some (.file latest) := by
  constructor
  · intro outcome after ran
    refine ⟨spares_of_write ran, ?_, ?_⟩
    · intro present
      rw [write_of_pathExists present] at ran
      cases ran
      exact ⟨rfl, rfl⟩
    · rintro rfl
      exact write_of_pathExists (pathExists_of_write tree ran)
  · intro outcome after ran
    have grown := extends_of_write ran
    refine ⟨grown.workingDirectory, fun _ => grown.directory, ?_⟩
    intro place content stored
    obtain ⟨latest, found⟩ := grown.file stored
    rcases grown.written found with same | ⟨path, listed, leads⟩
    · rw [stored] at same
      cases same
      exact .inl found
    · exact .inr ⟨path, latest, listed, leads, found⟩

/-- A site directory with a configuration file that is no text, and nothing
else. -/
def begunFiles : FileSystem where
  items :=
    [(["site"], .directory), (["site", "site.toml"], .file (.bytes [0xFF]))]

theorem isTree_begunFiles : begunFiles.IsTree := by
  apply isTree_of_items rfl
  decide +kernel

/-- The other files are added, and a second run changes nothing; only with leave
to replace files the configuration file is replaced. -/
theorem write_spares_begunFiles :
    begunFiles.IsTree ∧
      (write ⟨"site"⟩ false begunFiles).1 = .ok () ∧
      (write ⟨"site"⟩ false begunFiles).2.item? ["site", "site.toml"] =
        some (.file (.bytes [0xFF])) ∧
      ((write ⟨"site"⟩ false begunFiles).2.item?
        ["site", "spec", "static", "style.css"]).isSome = true ∧
      write ⟨"site"⟩ false (write ⟨"site"⟩ false begunFiles).2 =
        (.ok (), (write ⟨"site"⟩ false begunFiles).2) ∧
      ∃ path latest, (path, latest) ∈ starterFiles ⟨"site"⟩ ∧
        (write ⟨"site"⟩ true begunFiles).2.locate path =
          .ok ["site", "site.toml"] ∧
        (write ⟨"site"⟩ true begunFiles).2.item? ["site", "site.toml"] =
          some (.file latest) := by
  obtain ⟨careful, replacing⟩ :=
    write_spares_files isTree_begunFiles ⟨"site"⟩
  have stored : begunFiles.item? ["site", "site.toml"] =
      some (.file (.bytes [0xFF])) := by
    decide +kernel
  have succeeded : (write ⟨"site"⟩ false begunFiles).1 = .ok () :=
    Outcome.eq_ok_of_toOption (by decide +kernel)
  obtain ⟨spares, -, again⟩ := careful _ _ (Prod.eta _).symm
  obtain ⟨-, -, changed⟩ := replacing _ _ (Prod.eta _).symm
  refine ⟨isTree_begunFiles, succeeded, spares.item stored,
    by decide +kernel, again succeeded, ?_⟩
  exact (changed _ _ stored).resolve_left (by decide +kernel)

end Scaffold

end WorkbookSite

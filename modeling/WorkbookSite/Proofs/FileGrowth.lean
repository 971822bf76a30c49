import WorkbookSite.Proofs.Outcomes
import WorkbookSite.Proofs.StoredItems

/-!
# Growing file systems

Making directories and writing files only adds to a file system: a directory
stays a directory, a file stays a file, and a path still leads where it led.
What a file holds changes only if a path that is written to leads there.
-/

namespace WorkbookSite.FileSystem

open FileAction

theorem locate_eq_ok_iff {files : FileSystem} {path : Path}
    {place : Location} :
    files.locate path = .ok place ↔
      path.isEmpty = false ∧ ∃ location,
        path.steps.foldlM files.follow files.workingDirectory =
            .ok location ∧
          (if path.endsInSlash then files.follow location .current
            else .ok location) = .ok place := by
  unfold locate
  cases path.isEmpty with
  | true => simp [bind, Except.bind]
  | false => simp [Outcome.bind_eq_ok]

/-- Everything that was there is still there and of the same kind. -/
structure Keeps (before after : FileSystem) : Prop where
  workingDirectory : after.workingDirectory = before.workingDirectory
  directory : ∀ {place}, before.item? place = some .directory →
    after.item? place = some .directory
  file : ∀ {place content}, before.item? place = some (.file content) →
    ∃ latest, after.item? place = some (.file latest)

namespace Keeps

variable {before middle after : FileSystem}

theorem refl (files : FileSystem) : Keeps files files :=
  ⟨rfl, id, fun {_ content} stored => ⟨content, stored⟩⟩

theorem trans (first : Keeps before middle) (second : Keeps middle after) :
    Keeps before after := by
  constructor
  · rw [second.workingDirectory, first.workingDirectory]
  · intro place stored
    exact second.directory (first.directory stored)
  · intro place content stored
    obtain ⟨latest, kept⟩ := first.file stored
    exact second.file kept

theorem isSome (keeps : Keeps before after) {place : Location}
    (stored : (before.item? place).isSome = true) :
    (after.item? place).isSome = true := by
  obtain ⟨item, found⟩ := Option.isSome_iff_exists.mp stored
  cases item with
  | directory => rw [keeps.directory found]; rfl
  | file content =>
      obtain ⟨latest, kept⟩ := keeps.file found
      rw [kept]
      rfl

theorem follow (keeps : Keeps before after) {here place : Location}
    {step : Component} (followed : before.follow here step = .ok place) :
    after.follow here step = .ok place := by
  unfold FileSystem.follow at *
  split at followed
  · exact followed
  · cases followed
  · cases followed
  · rename_i stored
    rw [keeps.directory stored]
    exact followed
  · rename_i stored
    rw [keeps.directory stored]
    exact followed
  · rename_i name stored
    rw [keeps.directory stored]
    simp only
    split at followed
    · cases followed
    · rename_i short
      rw [if_neg short]
      split at followed
      · rename_i present
        rw [if_pos (keeps.isSome present)]
        exact followed
      · cases followed

theorem foldlM_follow (keeps : Keeps before after) {here place : Location}
    {steps : List Component}
    (followed : steps.foldlM before.follow here = .ok place) :
    steps.foldlM after.follow here = .ok place := by
  induction steps generalizing here with
  | nil => exact followed
  | cons step steps induction =>
      rw [List.foldlM_cons] at followed ⊢
      obtain ⟨next, first, rest⟩ := Outcome.bind_eq_ok.mp followed
      rw [keeps.follow first]
      exact induction rest

theorem locate (keeps : Keeps before after) {path : Path} {place : Location}
    (located : before.locate path = .ok place) :
    after.locate path = .ok place := by
  rw [locate_eq_ok_iff] at located ⊢
  obtain ⟨written, location, followed, ended⟩ := located
  refine ⟨written, location, ?_, ?_⟩
  · rw [keeps.workingDirectory]
    exact keeps.foldlM_follow followed
  · split at ended
    · rename_i slash
      rw [if_pos slash]
      exact keeps.follow ended
    · rename_i noSlash
      rw [if_neg noSlash]
      exact ended

theorem put_directory {files : FileSystem} {place : Location}
    (absent : files.item? place = none) :
    Keeps files (files.put place .directory) := by
  have inside : place ≠ [] := ne_root_of_item? absent (by simp)
  have other : ∀ {location item}, files.item? location = some item →
      (files.put place .directory).item? location = some item := by
    intro location item stored
    rw [item?_put _ _ inside, if_neg]
    · exact stored
    · intro same
      rw [same, absent] at stored
      contradiction
  exact ⟨rfl, other, fun {_ content} stored => ⟨content, other stored⟩⟩

theorem put_file {files : FileSystem} {place : Location} (content : Content)
    (inside : place ≠ []) (noDirectory : files.isDirectoryAt place = false) :
    Keeps files (files.put place (.file content)) := by
  constructor
  · rfl
  · intro location stored
    rw [item?_put _ _ inside, if_neg]
    · exact stored
    · intro same
      rw [isDirectoryAt, ← same, stored] at noDirectory
      contradiction
  · intro location previous stored
    rw [item?_put _ _ inside]
    by_cases same : location = place
    · exact ⟨content, if_pos same⟩
    · exact ⟨previous, (if_neg same).trans stored⟩

end Keeps

/-- The file system has grown, and what is new in a file is what one of the
targets is to hold. -/
structure Extends (targets : FileSystem → Path → Content → Prop)
    (before after : FileSystem) : Prop extends Keeps before after where
  written : ∀ {place content}, after.item? place = some (.file content) →
    before.item? place = some (.file content) ∨
      ∃ target, targets after target content ∧
        after.locate target = .ok place

/-- A target stays one when the file system grows. -/
def Persistent (targets : FileSystem → Path → Content → Prop) : Prop :=
  ∀ ⦃before after target content⦄, Keeps before after →
    targets before target content → targets after target content

namespace Extends

variable {targets : FileSystem → Path → Content → Prop}
  {before middle after : FileSystem}

theorem refl (files : FileSystem) : Extends targets files files :=
  ⟨.refl files, .inl⟩

theorem trans (persistent : Persistent targets)
    (first : Extends targets before middle)
    (second : Extends targets middle after) :
    Extends targets before after := by
  refine ⟨first.toKeeps.trans second.toKeeps, ?_⟩
  intro place content stored
  rcases second.written stored with earlier | later
  · rcases first.written earlier with original | ⟨target, listed, leads⟩
    · exact .inl original
    · exact .inr ⟨target, persistent second.toKeeps listed,
        second.toKeeps.locate leads⟩
  · exact .inr later

theorem of_pure {ε α : Type} {value : α} {outcome : Except ε α}
    (ran : (pure value : FileAction ε α) before = (outcome, after)) :
    Extends targets before after := by
  obtain ⟨-, rfl⟩ := pure_ran.mp ran
  exact .refl before

theorem of_throw {ε α : Type} {error : ε} {outcome : Except ε α}
    (ran : (throw error : FileAction ε α) before = (outcome, after)) :
    Extends targets before after := by
  obtain ⟨-, rfl⟩ := throw_ran.mp ran
  exact .refl before

theorem bind {ε α β : Type} {first : FileAction ε α}
    {next : α → FileAction ε β} {outcome : Except ε β}
    (persistent : Persistent targets)
    (ran : (first >>= next) before = (outcome, after))
    (start : ∀ {result middle}, first before = (result, middle) →
      Extends targets before middle)
    (rest : ∀ {value middle}, first before = (.ok value, middle) →
      Extends targets before middle →
        next value middle = (outcome, after) →
          Extends targets middle after) :
    Extends targets before after := by
  rcases bind_ran ran with ⟨value, middle, here, later⟩ | ⟨error, here, -⟩
  · exact (start here).trans persistent (rest here (start here) later)
  · exact start here

end Extends

variable {targets : FileSystem → Path → Content → Prop}
  {files after : FileSystem}

theorem Extends.put_directory {place : Location}
    (absent : files.item? place = none) :
    Extends targets files (files.put place .directory) := by
  have inside : place ≠ [] := ne_root_of_item? absent (by simp)
  refine ⟨.put_directory absent, ?_⟩
  intro location content stored
  rw [item?_put _ _ inside] at stored
  by_cases same : location = place
  · rw [if_pos same] at stored
    cases stored
  · rw [if_neg same] at stored
    exact .inl stored

theorem Extends.put_file {path : Path} {place : Location}
    (content : Content) (inside : place ≠ [])
    (noDirectory : files.isDirectoryAt place = false)
    (listed : targets (files.put place (.file content)) path content)
    (leads : (files.put place (.file content)).locate path = .ok place) :
    Extends targets files (files.put place (.file content)) := by
  refine ⟨.put_file content inside noDirectory, ?_⟩
  intro location latest stored
  rw [item?_put _ _ inside] at stored
  by_cases same : location = place
  · rw [if_pos same] at stored
    cases stored
    rw [same]
    exact .inr ⟨path, listed, leads⟩
  · rw [if_neg same] at stored
    exact .inl stored

theorem extends_makeAlong {components : List Component} {here : Location}
    {outcome : Except Refusal Unit} (persistent : Persistent targets)
    (ran : makeAlong here components files = (outcome, after)) :
    Extends targets files after := by
  induction components generalizing here files with
  | nil => exact .of_pure ran
  | cons component components induction =>
      cases component with
      | root => exact induction ran
      | current => exact induction ran
      | parent => exact induction ran
      | name name =>
          rw [makeAlong] at ran
          replace ran := get_bind_ran.mp ran
          cases stored : files.item? (here ++ [name]) with
          | some item =>
              cases item with
              | directory =>
                  simp only [stored] at ran
                  exact induction ran
              | file content =>
                  simp only [stored] at ran
                  exact .of_throw ran
          | none =>
              simp only [stored] at ran
              cases long : isNameTooLong name with
              | true =>
                  simp only [long, if_true] at ran
                  obtain ⟨-, rfl⟩ := throw_bind_ran.mp ran
                  exact .refl files
              | false =>
                  simp only [long, Bool.false_eq_true, if_false] at ran
                  exact (Extends.put_directory stored).trans persistent
                    (induction (set_bind_ran.mp ran))

/-- Directories are made along the path; only a path that ends in a `.` after a
name is looked up again, which changes nothing. -/
theorem extends_makeDirectories {path : Path} {outcome : Except Refusal Unit}
    (persistent : Persistent targets)
    (ran : makeDirectories path files = (outcome, after)) :
    Extends targets files after := by
  unfold makeDirectories at ran
  replace ran := get_bind_ran.mp ran
  cases last : path.steps.getLast? with
  | none =>
      simp only [last] at ran
      exact extends_makeAlong persistent ran
  | some step =>
      cases step with
      | root | parent | name =>
          simp only [last] at ran
          exact extends_makeAlong persistent ran
      | current =>
          cases named : path.components.getLast? with
          | none =>
              simp only [last, named] at ran
              exact extends_makeAlong persistent ran
          | some component =>
              cases component with
              | root | current | parent =>
                  simp only [last, named] at ran
                  exact extends_makeAlong persistent ran
              | name name =>
                  simp only [last, named] at ran
                  apply Extends.bind persistent ran
                    (extends_makeAlong persistent)
                  intro made middle _ _ checked
                  replace checked := get_bind_ran.mp checked
                  cases located : middle.locate path with
                  | ok place =>
                      simp only [located] at checked
                      exact .of_pure checked
                  | error refusal =>
                      simp only [located] at checked
                      exact .of_throw checked

theorem extends_makeParents {path : Path} {outcome : Except Refusal Unit}
    (persistent : Persistent targets)
    (ran : makeParents path files = (outcome, after)) :
    Extends targets files after :=
  extends_makeAlong persistent (get_bind_ran.mp ran)

theorem isEmpty_eq_false_of_steps {path : Path} (steps : path.steps ≠ []) :
    path.isEmpty = false := by
  apply Bool.eq_false_iff.mpr
  intro empty
  apply steps
  obtain ⟨text⟩ := path
  obtain rfl : text = "" := beq_iff_eq.mp empty
  rfl

theorem locate_put_file {path : Path} {name : String} {parent : Location}
    {content : Content} (last : path.steps.getLast? = some (.name name))
    (followed : path.steps.dropLast.foldlM files.follow
      files.workingDirectory = .ok parent)
    (isParent : files.isDirectoryAt parent = true)
    (noSlash : path.endsInSlash = false) (short : isNameTooLong name = false)
    (noDirectory : files.isDirectoryAt (parent ++ [name]) = false) :
    (files.put (parent ++ [name]) (.file content)).locate path =
      .ok (parent ++ [name]) := by
  have inside : parent ++ [name] ≠ [] := by simp
  have keeps := Keeps.put_file content inside noDirectory
  have parentKept := keeps.directory (beq_iff_eq.mp isParent)
  have stored := item?_put files (.file content) inside (parent ++ [name])
  rw [if_pos rfl] at stored
  obtain ⟨steps, spelled⟩ := List.getLast?_eq_some_iff.mp last
  rw [spelled, List.dropLast_concat] at followed
  rw [locate_eq_ok_iff]
  refine ⟨isEmpty_eq_false_of_steps (by simp [spelled]), parent ++ [name],
    ?_, by rw [noSlash]; rfl⟩
  rw [spelled, List.foldlM_append, keeps.workingDirectory,
    keeps.foldlM_follow followed]
  simp [follow, parentKept, short, stored, bind, Except.bind, pure,
    Except.pure]

theorem writeFile_ran {path : Path} {content : Content}
    {outcome : Except Refusal Location}
    (ran : writeFile path content files = (outcome, after)) :
    (∃ refusal, outcome = .error refusal ∧ after = files) ∨
      ∃ place, outcome = .ok place ∧
        after = files.put place (.file content) ∧ place ≠ [] ∧
        files.isDirectoryAt place = false ∧ after.locate path = .ok place ∧
        ∃ above name, place = above ++ [name] ∧
          files.item? above = some .directory ∧ .name name ∈ path.steps ∧
          isNameTooLong name = false := by
  unfold writeFile at ran
  replace ran := get_bind_ran.mp ran
  cases last : path.steps.getLast? with
  | none =>
      simp only [last] at ran
      obtain ⟨rfl, rfl⟩ := throw_ran.mp ran
      exact .inl ⟨_, rfl, rfl⟩
  | some step =>
      cases step with
      | root | current | parent =>
          simp only [last] at ran
          obtain ⟨rfl, rfl⟩ := throw_ran.mp ran
          exact .inl ⟨_, rfl, rfl⟩
      | name name =>
          simp only [last] at ran
          cases followed : path.steps.dropLast.foldlM files.follow
              files.workingDirectory with
          | error refusal =>
              simp only [followed] at ran
              obtain ⟨rfl, rfl⟩ := throw_ran.mp ran
              exact .inl ⟨_, rfl, rfl⟩
          | ok parent =>
              simp only [followed] at ran
              split at ran
              · obtain ⟨rfl, rfl⟩ := throw_bind_ran.mp ran
                exact .inl ⟨_, rfl, rfl⟩
              · rename_i free
                simp only [Bool.or_eq_true, Bool.not_eq_true', not_or,
                  Bool.not_eq_false, Bool.not_eq_true] at free
                obtain ⟨⟨⟨isParent, noSlash⟩, short⟩, noDirectory⟩ := free
                replace ran := set_bind_ran.mp ran
                obtain ⟨rfl, rfl⟩ := pure_ran.mp ran
                exact .inr ⟨parent ++ [name], rfl, rfl, by simp, noDirectory,
                  locate_put_file last followed isParent noSlash short
                    noDirectory,
                  parent, name, rfl, beq_iff_eq.mp isParent,
                  List.mem_of_getLast? last, short⟩

theorem extends_writeFile {path : Path} {content : Content}
    {outcome : Except Refusal Location} (persistent : Persistent targets)
    (listed : targets files path content)
    (ran : writeFile path content files = (outcome, after)) :
    Extends targets files after := by
  rcases writeFile_ran ran with ⟨refusal, -, rfl⟩ |
    ⟨place, -, rfl, inside, noDirectory, leads, -⟩
  · exact .refl _
  · exact .put_file content inside noDirectory
      (persistent (.put_file content inside noDirectory) listed) leads

theorem extends_copyFile {source : Location} {content : Content} {path : Path}
    {outcome : Except Refusal Unit} (persistent : Persistent targets)
    (listed : ∀ latest, targets files path latest)
    (ran : copyFile source content path files = (outcome, after)) :
    Extends targets files after := by
  unfold copyFile at ran
  apply Extends.bind persistent ran
    (extends_writeFile persistent (listed content))
  intro place middle wrote _ finished
  by_cases onto : place = source
  · simp only [if_pos onto] at finished
    obtain rfl : middle.put place (.file (.text "")) = after :=
      (Prod.mk.inj finished).2
    rcases writeFile_ran wrote with ⟨refusal, failed, -⟩ |
      ⟨written, same, rfl, inside, noDirectory, leads, -⟩
    · cases failed
    · cases same
      have keeps := Keeps.put_file content inside noDirectory
      have stored := item?_put files (.file content) inside place
      rw [if_pos rfl] at stored
      have stillFile : (files.put place (.file content)).isDirectoryAt place =
          false := by
        rw [isDirectoryAt, stored]
        rfl
      have keepsEmpty := Keeps.put_file (.text "") inside stillFile
      exact .put_file (.text "") inside stillFile
        (persistent (keeps.trans keepsEmpty) (listed _))
        (keepsEmpty.locate leads)
  · simp only [if_neg onto] at finished
    exact .of_pure finished

theorem Extends.of_orElseFail {ε α : Type} {action : FileAction Refusal α}
    {error : ε} {outcome : Except ε α}
    (inner : ∀ {result}, action files = (result, after) →
      Extends targets files after)
    (ran : action.orElseFail error files = (outcome, after)) :
    Extends targets files after := by
  obtain ⟨result, here, -⟩ := orElseFail_ran ran
  exact inner here

/-- Whether removing the tree at `path` removes what is at `place`. -/
def Removes (files : FileSystem) (path : Path) (place : Location) : Prop :=
  ∃ removed, files.locate path = .ok removed ∧
    files.isDirectoryAt removed = true ∧ removed <+: place

theorem removes_iff {path : Path} {removed place : Location}
    (located : files.locate path = .ok removed) :
    files.Removes path place ↔
      files.isDirectoryAt removed = true ∧ removed <+: place := by
  constructor
  · intro removes
    obtain ⟨other, leads, directory, above⟩ := removes
    rw [located] at leads
    cases leads
    exact ⟨directory, above⟩
  · intro removes
    exact ⟨removed, located, removes⟩

theorem removeTree_ran {path : Path} {outcome : Except Refusal Unit}
    (ran : removeTree path files = (outcome, after)) :
    (after = files ∧ ∀ place, ¬ files.Removes path place) ∨
      ∃ removed, files.locate path = .ok removed ∧
        files.isDirectoryAt removed = true ∧
        (after = files.removeAt removed ∨
          after = files.removeBelow removed) := by
  unfold removeTree at ran
  replace ran := get_bind_ran.mp ran
  cases located : files.locate path with
  | error refusal =>
      simp only [located] at ran
      obtain ⟨-, rfl⟩ := throw_ran.mp ran
      refine .inl ⟨rfl, ?_⟩
      intro place removes
      obtain ⟨removed, leads, -⟩ := removes
      rw [located] at leads
      cases leads
  | ok removed =>
      simp only [located] at ran
      cases directory : files.isDirectoryAt removed with
      | false =>
          simp only [directory, Bool.not_false, if_true] at ran
          obtain ⟨-, rfl⟩ := throw_bind_ran.mp ran
          refine .inl ⟨rfl, ?_⟩
          intro place removes
          rw [removes_iff located, directory] at removes
          cases removes.1
      | true =>
          simp only [directory, Bool.not_true, Bool.false_eq_true, if_false]
            at ran
          refine .inr ⟨removed, rfl, directory, ?_⟩
          cases last : path.steps.getLast? with
          | none =>
              simp only [last] at ran
              replace ran := set_bind_ran.mp ran
              exact .inr (throw_ran.mp ran).2.symm
          | some step =>
              cases step with
              | name name =>
                  simp only [last] at ran
                  exact .inl (Prod.mk.inj ran).2.symm
              | root | current =>
                  simp only [last] at ran
                  replace ran := set_bind_ran.mp ran
                  exact .inr (throw_ran.mp ran).2.symm
              | parent =>
                  simp only [last] at ran
                  replace ran := set_bind_ran.mp ran
                  split at ran
                  · exact .inr (throw_ran.mp ran).2.symm
                  · exact .inr (pure_ran.mp ran).2.symm

theorem workingDirectory_removeTree {path : Path}
    {outcome : Except Refusal Unit}
    (ran : removeTree path files = (outcome, after)) :
    after.workingDirectory = files.workingDirectory := by
  rcases removeTree_ran ran with ⟨rfl, -⟩ | ⟨removed, -, -, rfl | rfl⟩
  · rfl
  · rfl
  · rfl

theorem item?_removeTree {path : Path} {place : Location} {content : Content}
    {outcome : Except Refusal Unit}
    (stored : files.item? place = some (.file content))
    (ran : removeTree path files = (outcome, after)) :
    (files.Removes path place → after.item? place = none) ∧
      (¬ files.Removes path place →
        after.item? place = some (.file content)) := by
  rcases removeTree_ran ran with ⟨rfl, kept⟩ |
    ⟨removed, located, directory, emptied⟩
  · exact ⟨fun removes => absurd removes (kept place), fun _ => stored⟩
  · have inside : place ≠ [] := ne_root_of_item? stored (by simp)
    have other : place ≠ removed := by
      intro same
      rw [isDirectoryAt, ← same, stored] at directory
      contradiction
    have left : after.item? place =
        if removed <+: place then none else files.item? place := by
      rcases emptied with rfl | rfl
      · exact item?_removeAt inside
      · exact item?_removeBelow inside other
    have removes : files.Removes path place ↔ removed <+: place :=
      (removes_iff located).trans (and_iff_right directory)
    constructor
    · intro gone
      rw [left, if_pos (removes.mp gone)]
    · intro keeps
      rw [left, if_neg fun above => keeps (removes.mpr above), stored]

end WorkbookSite.FileSystem

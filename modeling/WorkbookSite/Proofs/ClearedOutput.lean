import WorkbookSite.Proofs.MaintainedBuilds
import WorkbookSite.Proofs.OpenedDirectories

/-!
# Output directories that are cleared

Where no file is in the way, a build can remove older output and make the
output directory again, unless a name on the way is too long.
-/

namespace WorkbookSite

open FileSystem CleanGuard FileAction

variable {files after : FileSystem} {path output : Path}

namespace FileSystem

theorem isSome_of_follow (tree : files.IsTree) {here place : Location}
    {step : Component} (followed : files.follow here step = .ok place) :
    (files.item? place).isSome = true := by
  unfold follow at followed
  split at followed
  · cases followed
    rw [item?_root]
    rfl
  · cases followed
  · cases followed
  · rename_i directory
    cases followed
    rw [directory]
    rfl
  · rename_i directory
    cases followed
    rw [tree.item?_dropLast directory]
    rfl
  · split at followed
    · cases followed
    · split at followed
      · rename_i present
        cases followed
        exact present
      · cases followed

/-- In a tree, a path that can be followed leads to something. -/
theorem isSome_of_locate (tree : files.IsTree) {place : Location}
    (located : files.locate path = .ok place) :
    (files.item? place).isSome = true := by
  obtain ⟨-, location, followed, ended⟩ := locate_eq_ok_iff.mp located
  have reached : ∀ {steps : List Component} {here : Location},
      (files.item? here).isSome = true →
        steps.foldlM files.follow here = .ok location →
          (files.item? location).isSome = true := by
    intro steps
    induction steps with
    | nil =>
        intro here present same
        cases same
        exact present
    | cons step steps induction =>
        intro here _ followed
        rw [List.foldlM_cons] at followed
        obtain ⟨next, first, rest⟩ := Outcome.bind_eq_ok.mp followed
        exact induction (isSome_of_follow tree first) rest
  split at ended
  · exact isSome_of_follow tree ended
  · cases ended
    apply reached _ followed
    rw [tree.home]
    rfl

/-- What keeps a path from being followed, when it is not that something is
missing. -/
theorem follow_obstructed {here : Location} {steps : List Component}
    (failed : steps.foldlM files.follow here = .error .obstructed) :
    (∃ passed content, passed <+: steps ∧
        files.item? (resolve here passed) = some (.file content)) ∨
      ∃ name, .name name ∈ steps ∧ isNameTooLong name = true := by
  induction steps generalizing here with
  | nil => cases failed
  | cons step steps induction =>
      rw [List.foldlM_cons] at failed
      rcases Outcome.bind_eq_error.mp failed with first | ⟨next, first, rest⟩
      · unfold follow at first
        split at first
        · cases first
        · cases first
        · rename_i content _ stored
          exact .inl ⟨[], content, List.nil_prefix, stored⟩
        · cases first
        · cases first
        · rename_i name _
          split at first
          · rename_i long
            exact .inr ⟨name, List.mem_cons_self, long⟩
          · split at first
            · cases first
            · cases first
      · rcases induction rest with ⟨passed, content, listed, stored⟩ |
          ⟨name, listed, long⟩
        · refine .inl ⟨step :: passed, content,
            List.cons_prefix_cons.mpr ⟨rfl, listed⟩, ?_⟩
          rw [follow_eq_resolve first, ← resolve_append] at stored
          exact stored
        · exact .inr ⟨name, List.mem_cons_of_mem _ listed, long⟩

theorem locate_obstructed (failed : files.locate path = .error .obstructed) :
    (∃ passed content, passed <+: path.steps ∧
        files.item? (resolve files.workingDirectory passed) =
          some (.file content)) ∨
      ∃ name, .name name ∈ path.steps ∧ isNameTooLong name = true := by
  unfold locate at failed
  cases written : path.isEmpty with
  | true => simp [written, bind, Except.bind] at failed
  | false =>
      simp only [written, Bool.false_eq_true, if_false] at failed
      rcases Outcome.bind_eq_error.mp failed with first |
        ⟨location, followed, ended⟩
      · exact follow_obstructed first
      · split at ended
        · have here := foldlM_follow_eq_resolve followed
          cases stored : files.item? location with
          | none => simp [follow, stored] at ended
          | some item =>
              cases item with
              | directory => simp [follow, stored] at ended
              | file content =>
                  rw [here] at stored
                  exact .inl ⟨path.steps, content, List.prefix_rfl, stored⟩
        · cases ended

theorem removeTree_named {name : String}
    {outcome : Except Refusal Unit}
    (last : path.steps.getLast? = some (.name name))
    (ran : removeTree path files = (outcome, after)) :
    (∃ refusal, files.locate path = .error refusal ∧
        outcome = .error refusal ∧ after = files) ∨
      ∃ place, files.locate path = .ok place ∧
        (files.isDirectoryAt place = false ∧ outcome = .error .obstructed ∧
            after = files ∨
          files.isDirectoryAt place = true ∧ outcome = .ok () ∧
            after = files.removeAt place) := by
  unfold removeTree at ran
  replace ran := get_bind_ran.mp ran
  cases located : files.locate path with
  | error refusal =>
      simp only [located] at ran
      obtain ⟨rfl, rfl⟩ := throw_ran.mp ran
      exact .inl ⟨refusal, rfl, rfl, rfl⟩
  | ok place =>
      refine .inr ⟨place, rfl, ?_⟩
      simp only [located, last] at ran
      cases directory : files.isDirectoryAt place with
      | false =>
          simp only [directory, Bool.not_false, if_true] at ran
          obtain ⟨rfl, rfl⟩ := throw_bind_ran.mp ran
          exact .inl ⟨rfl, rfl, rfl⟩
      | true =>
          simp only [directory, Bool.not_true, Bool.false_eq_true, if_false]
            at ran
          obtain ⟨rfl, rfl⟩ := Prod.mk.inj ran
          exact .inr ⟨rfl, rfl, rfl⟩

theorem follow_current {here place : Location}
    (followed : files.follow here .current = .ok place) :
    place = here ∧ files.item? here = some .directory := by
  cases stored : files.item? here with
  | none => simp [follow, stored] at followed
  | some item =>
      cases item with
      | directory => simpa [follow, stored, eq_comm] using followed
      | file content => simp [follow, stored] at followed

/-- A path that ends in a `.` leads to a directory. -/
theorem directory_of_locate {place : Location}
    (last : path.steps.getLast? = some .current)
    (located : files.locate path = .ok place) :
    files.item? place = some .directory := by
  obtain ⟨-, location, followed, ended⟩ := locate_eq_ok_iff.mp located
  obtain ⟨steps, spelled⟩ := List.getLast?_eq_some_iff.mp last
  rw [spelled, List.foldlM_append] at followed
  obtain ⟨here, -, final⟩ := Outcome.bind_eq_ok.mp followed
  obtain ⟨next, first, same⟩ := Outcome.bind_eq_ok.mp final
  cases same
  obtain ⟨rfl, directory⟩ := follow_current first
  split at ended
  · rw [(follow_current ended).1]
    exact directory
  · cases ended
    exact directory

/-- A directory cannot be removed under a path that does not end with a name
or with a `..`. -/
theorem removeTree_unnamed {place : Location} {outcome : Except Refusal Unit}
    (located : files.locate path = .ok place)
    (directory : files.item? place = some .directory)
    (unnamed : ∀ name, path.steps.getLast? ≠ some (.name name))
    (onward : path.steps.getLast? ≠ some .parent)
    (ran : removeTree path files = (outcome, after)) :
    outcome = .error .obstructed := by
  rw [removeTree] at ran
  replace ran := get_bind_ran.mp ran
  have entered : files.isDirectoryAt place = true := beq_iff_eq.mpr directory
  simp only [located, entered, Bool.not_true, Bool.false_eq_true, if_false]
    at ran
  cases last : path.steps.getLast? with
  | none =>
      exact (Prod.mk.inj ran).1.symm
  | some step =>
      cases step with
      | name name => exact absurd last (unnamed name)
      | parent => exact absurd last onward
      | root | current =>
          exact (Prod.mk.inj ran).1.symm

theorem makeDirectories_eq (other : path.steps.getLast? ≠ some .current) :
    makeDirectories path files =
      makeAlong files.workingDirectory path.components files := by
  unfold makeDirectories
  cases last : path.steps.getLast? with
  | none => rfl
  | some step =>
      cases step with
      | current => exact absurd last other
      | root | parent | name => rfl

end FileSystem

namespace Build

/-- No file is in the way of the output directory, its path ends with its name,
and relative paths do not start inside it. -/
structure ClearWay (files : FileSystem) (output : Path) : Prop where
  named : ∃ name, output.steps.getLast? = some (.name name)
  free : ∀ ⦃passed content⦄, passed <+: output.components →
    files.item? (resolve files.workingDirectory passed) ≠
      some (.file content)
  apart : ¬ lexicalLocation files output <+: files.workingDirectory

/-- A name on the way is longer than names can be. -/
def LongWay (output : Path) : Prop :=
  ∃ name, .name name ∈ output.components ∧ isNameTooLong name = true

namespace ClearWay

theorem of_removed (clear : ClearWay files output)
    (settled : after.workingDirectory = files.workingDirectory)
    (removed : ∀ place, after.item? place = files.item? place ∨
      after.item? place = none) : ClearWay after output := by
  constructor
  · exact clear.named
  · intro passed content listed stored
    rw [settled] at stored
    rcases removed (resolve files.workingDirectory passed) with same | gone
    · exact clear.free listed (same.symm.trans stored)
    · rw [gone] at stored
      cases stored
  · rw [lexicalLocation_congr settled, settled]
    exact clear.apart

/-- What removing older output comes to. -/
theorem removeOutput_ran (clear : ClearWay files output) (tree : files.IsTree)
    {outcome : Except SiteError Unit}
    (ran : removeOutput output files = (outcome, after)) :
    after.IsTree ∧ ClearWay after output ∧
      (outcome = .ok () ∨
        outcome = .error (.write output) ∧ LongWay output) := by
  obtain ⟨name, last⟩ := clear.named
  obtain ⟨result, removed, ended⟩ := Build.removeOutput_ran ran
  rcases removeTree_named last removed with ⟨refusal, failed, rfl, rfl⟩ |
    ⟨place, located, ⟨noDirectory, -, -⟩ | ⟨-, rfl, rfl⟩⟩
  · refine ⟨tree, clear, ?_⟩
    rcases ended with ⟨rfl, -⟩ | ⟨rfl, obstructed⟩
    · exact .inl rfl
    · cases obstructed
      refine .inr ⟨rfl, ?_⟩
      rcases locate_obstructed failed with
        ⟨passed, content, listed, stored⟩ | ⟨long, listed, tooLong⟩
      · obtain ⟨kept, within, same⟩ := exists_components_prefix listed
        rw [same] at stored
        exact absurd stored (clear.free within)
      · exact ⟨long, Path.name_mem_components listed, tooLong⟩
  · have here := locate_eq_lexicalLocation located
    obtain ⟨item, stored⟩ :=
      Option.isSome_iff_exists.mp (isSome_of_locate tree located)
    cases item with
    | directory =>
        rw [isDirectoryAt, stored] at noDirectory
        cases noDirectory
    | file content =>
        rw [here] at stored
        exact absurd stored (clear.free List.prefix_rfl)
  · have here := locate_eq_lexicalLocation located
    rw [here]
    refine ⟨tree.removeAt clear.apart, ?_, ?_⟩
    · apply @of_removed files (files.removeAt _) output clear rfl
      intro other
      exact (item?_of_removed (.inl rfl) other).imp_right And.left
    · rcases ended with ⟨rfl, -⟩ | ⟨-, failed⟩
      · exact .inl rfl
      · cases failed

/-- What making the output directory comes to. -/
theorem makeDirectories_ran (clear : ClearWay files output)
    (tree : files.IsTree) {outcome : Except Refusal Unit}
    (ran : makeDirectories output files = (outcome, after)) :
    Along files.workingDirectory output.components files outcome after ∧
      (outcome = .ok () ∧ after.OpenTo output ∨
        outcome ≠ .ok () ∧ LongWay output) := by
  obtain ⟨name, last⟩ := clear.named
  rw [makeDirectories_eq (by simp [last])] at ran
  have along := makeAlong_ran tree tree.home
    (fun _ => Path.isFileName_of_mem_components) ran
  refine ⟨along, ?_⟩
  cases outcome with
  | ok value =>
      refine .inl ⟨rfl, ?_⟩
      intro passed listed
      rw [along.keeps.workingDirectory]
      exact along.opened rfl listed
  | error refusal =>
      refine .inr ⟨nofun, ?_⟩
      obtain ⟨passed, name, listed, long | ⟨content, stored⟩⟩ :=
        along.stopped rfl
      · exact ⟨name, listed.subset (by simp), long⟩
      · rw [← resolve_concat_name] at stored
        exact absurd stored (clear.free listed)

end ClearWay

end Build

end WorkbookSite

import WorkbookSite.Proofs.AgreeingWrites
import WorkbookSite.Proofs.PlainPaths

/-!
# Directories that are made again

A path that leads to a directory is open.  When the directory is removed, the
path makes it again, and nothing else, unless the path passes something inside
the directory on its way.
-/

namespace WorkbookSite

open FileSystem CleanGuard FileAction

namespace CleanGuard

theorem exists_prefix_of_filter {first : Component}
    {others passed : List Component}
    (listed : passed <+: first :: others.filter (· != .current)) :
    ∃ taken, taken <+: first :: others ∧
      ∀ here, resolve here taken = resolve here passed := by
  cases passed with
  | nil => exact ⟨[], List.nil_prefix, fun _ => rfl⟩
  | cons step passed =>
      obtain ⟨rfl, within⟩ := List.cons_prefix_cons.mp listed
      obtain ⟨taken, before, rfl⟩ := List.prefix_filter_iff.mp within
      refine ⟨step :: taken, List.cons_prefix_cons.mpr ⟨rfl, before⟩, ?_⟩
      intro here
      have same := resolve_filter_current (resolve here [step]) taken
      rw [← resolve_append, ← resolve_append] at same
      exact same.symm

/-- What the components of a path pass is passed when it is followed. -/
theorem exists_steps_prefix {path : Path} {passed : List Component}
    (listed : passed <+: path.components) :
    ∃ taken, taken <+: path.steps ∧
      ∀ here, resolve here taken = resolve here passed := by
  rw [Path.components] at listed
  cases spelled : path.steps with
  | nil =>
      rw [spelled] at listed
      exact ⟨[], List.prefix_rfl, by simp [List.prefix_nil.mp listed]⟩
  | cons first others =>
      simp only [spelled] at listed
      exact exists_prefix_of_filter listed

/-- Before its last name, a path passes the same in both ways. -/
theorem exists_components_concat {path : Path} {before : List Component}
    {name : String} (spelled : path.steps = before ++ [.name name]) :
    ∃ above, path.components = above ++ [.name name] ∧
      (∀ ⦃passed⦄, passed <+: above → ∃ taken, taken <+: before ∧
        ∀ here, resolve here taken = resolve here passed) ∧
      ∀ here, resolve here above = resolve here before := by
  rw [Path.components, spelled]
  cases before with
  | nil =>
      refine ⟨[], rfl, ?_, fun _ => rfl⟩
      intro passed listed
      exact ⟨[], List.prefix_rfl, by simp [List.prefix_nil.mp listed]⟩
  | cons first before =>
      refine ⟨first :: before.filter (· != .current), by simp,
        fun _ => exists_prefix_of_filter, ?_⟩
      intro here
      have same := resolve_filter_current (resolve here [first]) before
      rw [← resolve_append, ← resolve_append] at same
      exact same

end CleanGuard

namespace FileSystem

variable {files after : FileSystem} {path : Path} {here place : Location}

theorem directory_of_follow {step : Component}
    (followed : files.follow here step = .ok place) (inner : step ≠ .root) :
    files.item? here = some .directory := by
  unfold follow at followed
  split at followed
  · exact absurd rfl inner
  · cases followed
  · cases followed
  · assumption
  · assumption
  · assumption

/-- All that is passed on the way to a place is a directory. -/
theorem directory_of_passed (tree : files.IsTree)
    (located : files.locate path = .ok place) {passed later : List Component}
    {step : Component} (spelled : path.steps = passed ++ step :: later) :
    files.item? (resolve files.workingDirectory passed) = some .directory := by
  obtain ⟨-, location, followed, -⟩ := locate_eq_ok_iff.mp located
  rw [spelled, List.foldlM_append] at followed
  obtain ⟨reached, before, beyond⟩ := Outcome.bind_eq_ok.mp followed
  rw [List.foldlM_cons] at beyond
  obtain ⟨next, here, -⟩ := Outcome.bind_eq_ok.mp beyond
  rw [← foldlM_follow_eq_resolve before]
  cases passed with
  | nil =>
      cases before
      exact tree.home
  | cons first passed =>
      apply directory_of_follow here
      rintro rfl
      exact Path.root_notMem_of_steps spelled (by simp)

theorem leadsTo_of_locate (tree : files.IsTree)
    (located : files.locate path = .ok place)
    (directory : files.item? place = some .directory) :
    files.LeadsTo path place := by
  have opened : files.OpenTo path := by
    intro passed listed
    obtain ⟨taken, ⟨rest, spelled⟩, same⟩ := exists_steps_prefix listed
    rw [← same]
    cases rest with
    | nil =>
        rw [List.append_nil] at spelled
        rw [spelled, ← resolve_components, ← lexicalLocation,
          ← locate_eq_lexicalLocation located]
        exact directory
    | cons step later => exact directory_of_passed tree located spelled.symm
  have leads := opened.leadsTo tree
  rwa [← locate_eq_lexicalLocation located] at leads

theorem follow_congr {step : Component}
    (start : after.item? here = files.item? here)
    (next : after.item? (resolve here [step]) =
      files.item? (resolve here [step])) :
    after.follow here step = files.follow here step := by
  unfold follow
  rw [start]
  cases step with
  | root => rfl
  | current | parent =>
      cases files.item? here with
      | none => rfl
      | some item =>
          cases item with
          | directory => rfl
          | file content => rfl
  | name name =>
      cases files.item? here with
      | none => rfl
      | some item =>
          cases item with
          | directory =>
              simp only [resolve] at next
              simp only [next]
          | file content => rfl

theorem foldlM_follow_congr {steps : List Component}
    (same : ∀ ⦃passed⦄, passed <+: steps →
      after.item? (resolve here passed) = files.item? (resolve here passed)) :
    steps.foldlM after.follow here = steps.foldlM files.follow here := by
  induction steps generalizing here with
  | nil => rfl
  | cons step steps induction =>
      have start : after.item? here = files.item? here := same List.nil_prefix
      have onward : ∀ ⦃passed⦄, passed <+: steps →
          after.item? (resolve (resolve here [step]) passed) =
            files.item? (resolve (resolve here [step]) passed) := by
        intro passed listed
        rw [← resolve_append]
        exact same (List.cons_prefix_cons.mpr ⟨rfl, listed⟩)
      rw [List.foldlM_cons, List.foldlM_cons,
        follow_congr start (onward List.nil_prefix)]
      cases followed : files.follow here step with
      | error refusal => rfl
      | ok reached =>
          rw [follow_eq_resolve followed]
          exact induction onward

/-- Where a path leads depends only on what it passes. -/
theorem locate_congr
    (settled : after.workingDirectory = files.workingDirectory)
    (same : ∀ ⦃passed⦄, passed <+: path.components →
      after.item? (resolve files.workingDirectory passed) =
        files.item? (resolve files.workingDirectory passed)) :
    after.locate path = files.locate path := by
  have passes : ∀ ⦃passed⦄, passed <+: path.steps →
      after.item? (resolve files.workingDirectory passed) =
        files.item? (resolve files.workingDirectory passed) := by
    intro passed listed
    obtain ⟨kept, within, leads⟩ := exists_components_prefix listed
    rw [leads]
    exact same within
  rw [locate, locate, settled, foldlM_follow_congr passes]
  cases followed : path.steps.foldlM files.follow files.workingDirectory with
  | error refusal => rfl
  | ok location =>
      have ends := passes List.prefix_rfl
      rw [← foldlM_follow_eq_resolve followed] at ends
      have final : after.follow location .current =
          files.follow location .current := follow_congr ends ends
      simp only [bind, Except.bind, final]

/-- A path that leads to a file ends with its name. -/
theorem exists_name_of_file (tree : files.IsTree) {content : Content}
    (located : files.locate path = .ok place)
    (stored : files.item? place = some (.file content)) :
    ∃ before name, path.steps = before ++ [.name name] ∧
      place = resolve files.workingDirectory before ++ [name] := by
  obtain ⟨-, location, followed, ended⟩ := locate_eq_ok_iff.mp located
  obtain rfl : place = location := by
    split at ended
    · exact (follow_current ended).1
    · cases ended
      rfl
  rcases List.eq_nil_or_concat path.steps with none | ⟨before, last, spelled⟩
  · rw [none] at followed
    cases followed
    rw [tree.home] at stored
    cases stored
  · rw [List.concat_eq_append] at spelled
    have passed := directory_of_passed tree located spelled
    have leads := foldlM_follow_eq_resolve followed
    rw [spelled, resolve_append] at leads
    have noDirectory : files.item? place ≠ some .directory := by
      rw [stored]
      nofun
    cases last with
    | name name => exact ⟨before, name, spelled, leads⟩
    | root =>
        rw [leads] at noDirectory
        exact absurd (item?_root files) noDirectory
    | current =>
        rw [leads] at noDirectory
        exact absurd passed noDirectory
    | parent =>
        rw [leads] at noDirectory
        exact absurd (tree.item?_dropLast passed) noDirectory

/-- A file is in the way of a directory of its name. -/
theorem makeDirectories_of_file (tree : files.IsTree) {content : Content}
    {other : Path} (located : files.locate path = .ok place)
    (stored : files.item? place = some (.file content))
    (same : other.steps = path.steps) :
    makeDirectories other files = (.error .obstructed, files) := by
  obtain ⟨before, name, spelled, rfl⟩ := exists_name_of_file tree located stored
  obtain ⟨above, components, passes, reached⟩ :=
    exists_components_concat (same.trans spelled)
  rw [makeDirectories_eq (by simp [same, spelled]), components,
    makeAlong_append_of_open, makeAlong, get_bind_eq, reached]
  · simp only [stored]
    rfl
  · intro passed listed
    obtain ⟨taken, ⟨later, rfl⟩, leads⟩ := passes listed
    rw [← leads]
    cases later with
    | nil =>
        rw [List.append_nil] at spelled
        exact directory_of_passed tree located spelled
    | cons step later =>
        rw [List.append_assoc, List.cons_append] at spelled
        exact directory_of_passed tree located spelled

/-- The path of a directory that was removed makes it again. -/
theorem makeAlong_of_missing (tree : files.IsTree)
    {above : Location} {name : String} {components : List Component}
    (absent : files.item? (above ++ [name]) = none)
    (short : isNameTooLong name = false)
    (start : files.item? here = some .directory)
    (passes : ∀ ⦃passed⦄, passed <+: components →
      files.item? (resolve here passed) = some .directory ∨
        resolve here passed = above ++ [name])
    (ends : resolve here components = above ++ [name]) :
    makeAlong here components files =
      (.ok (), files.put (above ++ [name]) .directory) := by
  induction components generalizing here with
  | nil =>
      rw [resolve] at ends
      rw [ends, absent] at start
      cases start
  | cons component components induction =>
      have onward : ∀ ⦃passed⦄, passed <+: components →
          files.item? (resolve (resolve here [component]) passed) =
              some .directory ∨
            resolve (resolve here [component]) passed = above ++ [name] := by
        intro passed listed
        rw [← resolve_append]
        exact passes (List.cons_prefix_cons.mpr ⟨rfl, listed⟩)
      have final : resolve (resolve here [component]) components =
          above ++ [name] := by
        rw [← resolve_append]
        exact ends
      cases component with
      | root => exact induction (item?_root files) onward final
      | current => exact induction start onward final
      | parent => exact induction (tree.item?_dropLast start) onward final
      | name next =>
          rw [makeAlong, get_bind_eq]
          rcases onward List.nil_prefix with there | itself
          · simp only [resolve] at there
            simp only [there]
            exact induction there onward final
          · simp only [resolve] at itself
            have long : isNameTooLong next = false := by
              obtain ⟨-, same⟩ := List.append_inj' itself rfl
              rw [List.singleton_inj.mp same]
              exact short
            simp only [itself, absent, long, Bool.false_eq_true, if_false]
            have inside : above ++ [name] ≠ [] := by simp
            have remade : makeAlong (above ++ [name]) components
                (files.put (above ++ [name]) .directory) =
                  (.ok (), files.put (above ++ [name]) .directory) := by
              apply makeAlong_of_open
              intro passed listed
              have there := onward listed
              simp only [resolve, itself] at there
              rw [item?_put _ _ inside]
              rcases there with directory | same
              · rw [directory]
                exact ite_self _
              · rw [if_pos same]
            exact remade

end FileSystem

end WorkbookSite

import WorkbookSite.Proofs.OpenedDirectories
import WorkbookSite.Site.Build

/-!
# Paths that never lead back

A path without a `..` only passes places above the one it leads to.  So it can
be followed as soon as there is a directory at its end, and what happens at
other places has no effect on it.
-/

namespace WorkbookSite

open FileSystem CleanGuard

namespace Path

/-- No component of the path leads back to the directory above. -/
def IsPlain (path : Path) : Prop := .parent ∉ path.components

instance (path : Path) : Decidable path.IsPlain :=
  inferInstanceAs (Decidable (_ ∉ _))

theorem isPlain_iff_steps {path : Path} :
    path.IsPlain ↔ .parent ∉ path.steps := by
  rw [IsPlain, components]
  cases path.steps with
  | nil => rfl
  | cons first others => simp

theorem isPlain_iff {path : Path} :
    path.IsPlain ↔ .parent ∉ writtenSteps path.text.toList := by
  rw [isPlain_iff_steps, steps_eq_writtenSteps]
  split
  · simp
  · rfl

theorem IsPlain.join {base path : Path} (plain : base.IsPlain)
    (below : path.IsPlain) : (base.join path).IsPlain := by
  cases absolute : path.isAbsolute with
  | true => rwa [Path.join, if_pos absolute]
  | false =>
      rw [isPlain_iff] at plain below ⊢
      rcases toList_join base absolute with ⟨same, -⟩ | ⟨-, joined⟩
      · rwa [same]
      · rw [joined, List.mem_append, not_or]
        exact ⟨plain, below⟩

theorem root_notMem_writtenSteps (characters : List Char) :
    .root ∉ writtenSteps characters := by
  intro listed
  obtain ⟨part, -, step⟩ := List.mem_filterMap.mp listed
  unfold step? at step
  split at step
  · cases step
  · split at step
    · cases step
    · split at step
      · cases step
      · cases step

/-- Only the first step of a path can lead to the root. -/
theorem root_notMem_of_steps {path : Path} {first : Component}
    {others : List Component} (spelled : path.steps = first :: others) :
    .root ∉ others := by
  have never := root_notMem_writtenSteps path.text.toList
  rw [steps_eq_writtenSteps] at spelled
  split at spelled
  · obtain ⟨-, rfl⟩ := List.cons.inj spelled
    exact never
  · rw [spelled, List.mem_cons, not_or] at never
    exact never.2

theorem root_notMem_of_components {path : Path} {first : Component}
    {others : List Component} (spelled : path.components = first :: others) :
    .root ∉ others := by
  rw [components] at spelled
  cases steps : path.steps with
  | nil => simp [steps] at spelled
  | cons step later =>
      simp only [steps] at spelled
      obtain ⟨-, rfl⟩ := List.cons.inj spelled
      intro listed
      exact root_notMem_of_steps steps (List.mem_filter.mp listed).1

theorem isAbsolute_of_root {path : Path} (listed : .root ∈ path.components) :
    path.isAbsolute = true := by
  by_contra relative
  apply root_notMem_writtenSteps path.text.toList
  have steps := components_subset_steps path listed
  rwa [steps_eq_writtenSteps, if_neg relative] at steps

end Path

namespace CleanGuard

theorem prefix_resolve {here : Location} {components : List Component}
    (onward : ∀ component ∈ components, component ≠ .root ∧
      component ≠ .parent) : here <+: resolve here components := by
  induction components generalizing here with
  | nil => exact List.prefix_rfl
  | cons component components induction =>
      obtain ⟨step, others⟩ := List.forall_mem_cons.mp onward
      cases component with
      | root => exact absurd rfl step.1
      | parent => exact absurd rfl step.2
      | current => exact induction others
      | name name =>
          exact (List.prefix_append here [name]).trans (induction others)

end CleanGuard

namespace Path.IsPlain

variable {path : Path} (plain : path.IsPlain)
include plain

theorem prefix_resolve {here : Location} {first : Component}
    {passed later : List Component}
    (listed : first :: passed ++ later <+: path.components) :
    here <+: resolve here later := by
  apply CleanGuard.prefix_resolve
  intro component within
  obtain ⟨rest, spelled⟩ := listed
  have never := root_notMem_of_components (spelled.symm.trans
    (List.cons_append ..))
  refine ⟨ne_of_mem_of_not_mem (List.mem_append_left _
    (List.mem_append_right _ within)) never, ?_⟩
  apply ne_of_mem_of_not_mem _ plain
  rw [← spelled]
  exact List.mem_append_left _ (List.mem_append_right _ within)

/-- What a plain path passes is where it starts, or is above its end. -/
theorem passed_cases (home : Location) {passed : List Component}
    (listed : passed <+: path.components) :
    passed = [] ∨
      resolve home passed <+: resolve home path.components := by
  cases passed with
  | nil => exact .inl rfl
  | cons first passed =>
      obtain ⟨later, spelled⟩ := listed
      have whole : first :: passed ++ later <+: path.components :=
        spelled ▸ List.prefix_rfl
      rw [← spelled, resolve_append]
      exact .inr (plain.prefix_resolve whole)

/-- A plain path that leads away from where it starts ends with a name. -/
theorem components_eq {home : Location}
    (away : ¬ resolve home path.components <+: home) :
    ∃ above name, path.components = above ++ [.name name] := by
  rcases List.eq_nil_or_concat path.components with none |
    ⟨above, last, spelled⟩
  · rw [none] at away
    exact absurd List.prefix_rfl away
  · rw [List.concat_eq_append] at spelled
    cases last with
    | name name => exact ⟨above, name, spelled⟩
    | parent =>
        rw [IsPlain, spelled] at plain
        simp at plain
    | root =>
        rw [spelled, resolve_append] at away
        exact absurd List.nil_prefix away
    | current =>
        cases above with
        | nil =>
            rw [spelled] at away
            exact absurd List.prefix_rfl away
        | cons first above =>
            rw [components] at spelled
            cases steps : path.steps with
            | nil => simp [steps] at spelled
            | cons step later =>
                simp only [steps, List.cons_append] at spelled
                obtain ⟨-, kept⟩ := List.cons.inj spelled
                have listed : .current ∈ later.filter (· != .current) := by
                  rw [kept]
                  simp
                simp at listed

/-- What a plain path passes before its last name is not where it ends. -/
theorem resolve_ne {home : Location} {above passed : List Component}
    {name : String} (spelled : path.components = above ++ [.name name])
    (away : ¬ resolve home path.components <+: home)
    (listed : passed <+: above) :
    resolve home passed ≠ resolve home path.components := by
  intro same
  cases passed with
  | nil =>
      apply away
      rw [← same]
      exact List.prefix_rfl
  | cons first passed =>
      obtain ⟨later, rfl⟩ := listed
      have onward : resolve home (first :: passed) <+:
          resolve (resolve home (first :: passed)) later :=
        plain.prefix_resolve (spelled ▸ List.prefix_append ..)
      rw [spelled, resolve_concat_name, resolve_append] at same
      have lengths := onward.length_le
      rw [same, List.length_append, List.length_singleton] at lengths
      rw [← same] at lengths
      omega

theorem steps_getLast? {above : List Component} {name : String}
    (spelled : path.components = above ++ [.name name]) :
    (∃ last, path.steps.getLast? = some (.name last)) ∨
      path.steps.getLast? = some .current := by
  cases last : path.steps.getLast? with
  | none =>
      rw [components, List.getLast?_eq_none_iff.mp last] at spelled
      simp at spelled
  | some step =>
      cases step with
      | name name => exact .inl ⟨name, rfl⟩
      | current => exact .inr rfl
      | parent =>
          exact absurd (List.mem_of_getLast? last) (isPlain_iff_steps.mp plain)
      | root =>
          obtain ⟨before, steps⟩ := List.getLast?_eq_some_iff.mp last
          cases before with
          | nil =>
              have same := congrArg List.getLast? spelled
              simp [components, steps] at same
          | cons first before => simpa using root_notMem_of_steps steps

theorem prefix_lexicalLocation {files : FileSystem}
    (relative : path.isAbsolute = false) :
    files.workingDirectory <+: lexicalLocation files path := by
  apply CleanGuard.prefix_resolve
  intro component listed
  refine ⟨?_, ne_of_mem_of_not_mem listed plain⟩
  rintro rfl
  rw [isAbsolute_of_root listed] at relative
  cases relative

variable {files : FileSystem} (tree : files.IsTree)
include tree

theorem openTo (directory : files.item? (lexicalLocation files path) =
    some .directory) : files.OpenTo path := by
  intro passed listed
  rcases plain.passed_cases files.workingDirectory listed with rfl | above
  · exact tree.home
  · exact tree.item?_prefix directory above

/-- A plain path can be followed to a directory. -/
theorem locate (written : path.isEmpty = false)
    (directory : files.item? (lexicalLocation files path) = some .directory) :
    files.locate path = .ok (lexicalLocation files path) := by
  have opened := plain.openTo tree directory
  have followed : path.steps.foldlM files.follow files.workingDirectory =
      .ok (lexicalLocation files path) := by
    rw [lexicalLocation, resolve_components]
    exact foldlM_follow_of_open tree fun _ => opened.steps
  refine locate_eq_ok_iff.mpr ⟨written, _, followed, ?_⟩
  split
  · simp [follow, directory]
  · rfl

end Path.IsPlain

end WorkbookSite

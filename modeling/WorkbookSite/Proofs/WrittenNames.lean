import WorkbookSite.Proofs.PlainPaths

/-!
# Names written in paths

The path of a document is a text that its author wrote.  What counts in it are
the parts between its slashes, unless they say nothing: so a path has one list
of names, however it is spelled, and it names a file inside the directory it is
taken from if there are such names and none of them leads back.
-/

namespace WorkbookSite.Path

/-- The part of a path says something: it is neither empty nor a single dot. -/
def speaks (part : List Char) : Bool := part != [] && part != ['.']

/-- What is written between the slashes of a path, without what says
nothing. -/
def writtenNames (text : String) : List String :=
  ((splitSlashes text.toList).filter speaks).map String.ofList

/-- The names are those of a file inside the directory that they start from. -/
def LeadInside (names : List String) : Prop :=
  names ≠ [] ∧ ".." ∉ names

/-- The name that a step gives. -/
def stepName? : Component → Option String
  | .name name => some name
  | _ => none

/-- A path that never leads back has the names of its components. -/
theorem innerNames?_of_notMem {path : Path}
    (onward : .parent ∉ path.components) :
    path.innerNames? =
      if (path.components.filterMap stepName?).isEmpty then none
      else some (path.components.filterMap stepName?) := by
  rw [innerNames?, if_neg onward]
  rfl

theorem filterMap_components (path : Path) :
    path.components.filterMap stepName? =
      (writtenSteps path.text.toList).filterMap stepName? := by
  have kept (steps : List Component) :
      (steps.filter (· != .current)).filterMap stepName? =
        steps.filterMap stepName? := by
    rw [List.filterMap_filter]
    apply List.filterMap_congr
    intro step _
    cases step <;> rfl
  have named : path.components.filterMap stepName? =
      path.steps.filterMap stepName? := by
    rw [components]
    cases path.steps with
    | nil => rfl
    | cons first others =>
        simp only [List.filterMap_cons, kept]
  rw [named, steps_eq_writtenSteps]
  split
  · rfl
  · rfl

theorem step?_eq_parent_iff {part : List Char} :
    step? part = some .parent ↔ part = ['.', '.'] := by
  constructor
  · intro step
    unfold step? at step
    split_ifs at step with empty dot back
    · cases step
    · exact back
    · cases step
  · rintro rfl
    rfl

theorem step?_bind_stepName? {part : List Char} (onward : part ≠ ['.', '.']) :
    (step? part).bind stepName? =
      if speaks part then some (String.ofList part) else none := by
  unfold step? speaks
  split_ifs <;> simp_all [stepName?]

theorem mem_writtenNames_iff {text : String} {part : List Char} :
    String.ofList part ∈ writtenNames text ↔
      part ∈ splitSlashes text.toList ∧ speaks part = true := by
  rw [writtenNames, List.mem_map_of_injective fun _ _ =>
    String.ofList_injective, List.mem_filter]

theorem parent_mem_writtenSteps_iff {text : String} :
    .parent ∈ writtenSteps text.toList ↔ ".." ∈ writtenNames text := by
  have dots : ".." = String.ofList ['.', '.'] := by decide
  rw [dots, mem_writtenNames_iff, and_iff_left (by decide), writtenSteps,
    List.mem_filterMap]
  simp only [step?_eq_parent_iff, exists_eq_right]

theorem filterMap_writtenSteps {text : String}
    (onward : ".." ∉ writtenNames text) :
    (writtenSteps text.toList).filterMap stepName? = writtenNames text := by
  rw [← parent_mem_writtenSteps_iff] at onward
  have written : writtenNames text = (splitSlashes text.toList).filterMap
      fun part => if speaks part then some (String.ofList part) else none := by
    rw [writtenNames, ← List.filterMap_eq_filter, List.map_filterMap]
    apply List.filterMap_congr
    intro part _
    cases speaking : speaks part <;> simp [Option.guard, speaking]
  rw [written, writtenSteps, List.filterMap_filterMap]
  apply List.filterMap_congr
  intro part split
  apply step?_bind_stepName?
  rintro rfl
  exact onward (List.mem_filterMap.mpr ⟨_, split, rfl⟩)

/-- A path has the names that are written in it, if these lead inside. -/
theorem innerNames?_eq_some_iff {text : String} {names : List String} :
    innerNames? ⟨text⟩ = some names ↔
      LeadInside names ∧ names = writtenNames text := by
  have plain : .parent ∈ (Path.mk text).components ↔
      ".." ∈ writtenNames text :=
    not_iff_not.mp (isPlain_iff.trans parent_mem_writtenSteps_iff.not)
  by_cases back : ".." ∈ writtenNames text
  · rw [innerNames?, if_pos (plain.mpr back)]
    constructor
    · intro none
      cases none
    · rintro ⟨⟨-, onward⟩, rfl⟩
      exact absurd back onward
  · rw [innerNames?_of_notMem (plain.not.mpr back), filterMap_components,
      filterMap_writtenSteps back]
    by_cases nameless : writtenNames text = []
    · simp only [nameless, List.isEmpty_nil, if_true]
      constructor
      · intro none
        cases none
      · rintro ⟨⟨named, -⟩, rfl⟩
        exact absurd rfl named
    · simp only [List.isEmpty_iff, nameless, if_false, Option.some.injEq]
      constructor
      · rintro rfl
        exact ⟨⟨nameless, back⟩, rfl⟩
      · rintro ⟨-, rfl⟩
        rfl

end WorkbookSite.Path

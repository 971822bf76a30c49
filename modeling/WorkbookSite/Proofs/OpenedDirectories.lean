import WorkbookSite.Proofs.FileTrees

/-!
# Directories that are made on the way

Following a path in a tree, and making the directories that are missing on the
way, leaves a tree.  It stops only at a file or at a name that is too long.
-/

namespace WorkbookSite.FileSystem

open CleanGuard FileAction

variable {files middle after : FileSystem} {here : Location}
  {component : Component} {components : List Component}
  {outcome : Except Refusal Unit}

/-- What becomes of a tree when components are followed from a directory and
the directories that are missing on the way are made. -/
structure Along (here : Location) (components : List Component)
    (files : FileSystem) (outcome : Except Refusal Unit)
    (after : FileSystem) : Prop where
  tree : after.IsTree
  keeps : Keeps files after
  count : after.items.length ≤ files.items.length + components.length
  made : ∀ ⦃place⦄, after.item? place ≠ files.item? place →
    files.item? place = none ∧ after.item? place = some .directory ∧
      ∃ passed, passed <+: components ∧ place = resolve here passed
  opened : outcome = .ok () → ∀ ⦃passed⦄, passed <+: components →
    after.item? (resolve here passed) = some .directory
  stopped : ∀ ⦃refusal⦄, outcome = .error refusal →
    ∃ passed name, passed ++ [.name name] <+: components ∧
      (isNameTooLong name = true ∨
        ∃ content, files.item? (resolve here passed ++ [name]) =
          some (.file content))

namespace Along

theorem nil (tree : files.IsTree) (start : files.item? here = some .directory) :
    Along here [] files (.ok ()) files := by
  constructor
  · exact tree
  · exact .refl files
  · exact Nat.le_refl _
  · intro place changed
    exact absurd rfl changed
  · intro _ passed listed
    rw [List.prefix_nil.mp listed]
    exact start
  · intro refusal failed
    cases failed

/-- One step that makes no more than the directory it leads to comes before
the others. -/
theorem cons (start : files.item? here = some .directory)
    (keeps : Keeps files middle)
    (count : middle.items.length ≤ files.items.length + 1)
    (made : ∀ ⦃place⦄, middle.item? place ≠ files.item? place →
      files.item? place = none ∧ middle.item? place = some .directory ∧
        place = resolve here [component])
    (rest : Along (resolve here [component]) components middle outcome after) :
    Along here (component :: components) files outcome after := by
  have onward (passed : List Component) :
      resolve (resolve here [component]) passed =
        resolve here (component :: passed) :=
    (resolve_append here [component] passed).symm
  constructor
  · exact rest.tree
  · exact keeps.trans rest.keeps
  · have later := rest.count
    rw [List.length_cons]
    omega
  · intro place changed
    by_cases same : middle.item? place = files.item? place
    · rw [← same] at changed ⊢
      obtain ⟨absent, directory, passed, listed, rfl⟩ := rest.made changed
      exact ⟨absent, directory, component :: passed,
        List.cons_prefix_cons.mpr ⟨rfl, listed⟩, onward passed⟩
    · obtain ⟨absent, directory, rfl⟩ := made same
      exact ⟨absent, rest.keeps.directory directory, [component],
        List.cons_prefix_cons.mpr ⟨rfl, List.nil_prefix⟩, rfl⟩
  · intro succeeded passed listed
    cases passed with
    | nil => exact rest.keeps.directory (keeps.directory start)
    | cons step passed =>
        obtain ⟨rfl, within⟩ := List.cons_prefix_cons.mp listed
        rw [← onward]
        exact rest.opened succeeded within
  · intro refusal failed
    obtain ⟨passed, name, listed, reason⟩ := rest.stopped failed
    refine ⟨component :: passed, name,
      List.cons_prefix_cons.mpr ⟨rfl, listed⟩, ?_⟩
    rw [← onward]
    apply reason.imp_right
    intro obstructed
    obtain ⟨content, stored⟩ := obstructed
    refine ⟨content, ?_⟩
    by_contra new
    rw [← stored] at new
    obtain ⟨-, directory, -⟩ := made (Ne.symm new)
    rw [stored] at directory
    cases directory

theorem cons_unchanged (start : files.item? here = some .directory)
    (rest : Along (resolve here [component]) components files outcome after) :
    Along here (component :: components) files outcome after := by
  apply cons start (.refl files) (Nat.le_succ _) ?_ rest
  intro place changed
  exact absurd rfl changed

theorem stop {name : String} {refusal : Refusal} (tree : files.IsTree)
    (reason : isNameTooLong name = true ∨
      ∃ content, files.item? (here ++ [name]) = some (.file content)) :
    Along here (.name name :: components) files (.error refusal) files := by
  constructor
  · exact tree
  · exact .refl files
  · exact Nat.le_add_right ..
  · intro place changed
    exact absurd rfl changed
  · intro succeeded
    cases succeeded
  · intro _ _
    exact ⟨[], name, List.cons_prefix_cons.mpr ⟨rfl, List.nil_prefix⟩, reason⟩

end Along

theorem makeAlong_ran (tree : files.IsTree)
    (start : files.item? here = some .directory)
    (proper : ∀ name, .name name ∈ components → Path.IsFileName name)
    (ran : makeAlong here components files = (outcome, after)) :
    Along here components files outcome after := by
  induction components generalizing here files with
  | nil =>
      obtain ⟨rfl, rfl⟩ := pure_ran.mp ran
      exact .nil tree start
  | cons component components induction =>
      have others := fun name listed =>
        proper name (List.mem_cons_of_mem component listed)
      cases component with
      | root =>
          exact .cons_unchanged start
            (induction tree (item?_root files) others ran)
      | current => exact .cons_unchanged start (induction tree start others ran)
      | parent =>
          exact .cons_unchanged start
            (induction tree (tree.item?_dropLast start) others ran)
      | name name =>
          replace ran := get_bind_ran.mp ran
          cases stored : files.item? (here ++ [name]) with
          | some item =>
              cases item with
              | directory =>
                  simp only [stored] at ran
                  exact .cons_unchanged start (induction tree stored others ran)
              | file content =>
                  simp only [stored] at ran
                  obtain ⟨rfl, rfl⟩ := throw_ran.mp ran
                  exact .stop tree (.inr ⟨content, stored⟩)
          | none =>
              simp only [stored] at ran
              cases long : isNameTooLong name with
              | true =>
                  simp only [long, if_true] at ran
                  obtain ⟨rfl, rfl⟩ := throw_bind_ran.mp ran
                  exact .stop tree (.inl long)
              | false =>
                  simp only [long, Bool.false_eq_true, if_false] at ran
                  replace ran := set_bind_ran.mp ran
                  have fileName := proper name List.mem_cons_self
                  have new : (files.put (here ++ [name]) .directory).IsTree :=
                    tree.put start fileName long (.inl rfl)
                  have itself : (files.put (here ++ [name]) .directory).item?
                      (resolve here [.name name]) = some .directory := by
                    rw [resolve, resolve, item?_put _ _ (by simp), if_pos rfl]
                  apply Along.cons start (.put_directory stored)
                    (length_items_put _ _) ?_
                    (induction new itself others ran)
                  intro place changed
                  rw [item?_put _ _ (by simp)] at changed ⊢
                  by_cases same : place = here ++ [name]
                  · subst same
                    exact ⟨stored, if_pos rfl, rfl⟩
                  · rw [if_neg same] at changed
                    exact absurd rfl changed

/-! ## Paths that are open -/

/-- All that a path passes, and where it ends, are directories. -/
def OpenTo (files : FileSystem) (path : Path) : Prop :=
  ∀ ⦃passed⦄, passed <+: path.components →
    files.item? (resolve files.workingDirectory passed) = some .directory

theorem foldlM_follow_of_open {steps : List Component} (tree : files.IsTree)
    (opened : ∀ ⦃passed⦄, passed <+: steps →
      files.item? (resolve here passed) = some .directory) :
    steps.foldlM files.follow here = .ok (resolve here steps) := by
  induction steps generalizing here with
  | nil => rfl
  | cons step steps induction =>
      have start : files.item? here = some .directory :=
        opened List.nil_prefix
      have onward : ∀ ⦃passed⦄, passed <+: steps →
          files.item? (resolve (resolve here [step]) passed) =
            some .directory := by
        intro passed listed
        rw [← resolve_append]
        exact opened (List.cons_prefix_cons.mpr ⟨rfl, listed⟩)
      have next := onward List.nil_prefix
      have followed : files.follow here step = .ok (resolve here [step]) := by
        cases step with
        | root | current | parent => simp [follow, start, resolve]
        | name name =>
            rw [resolve, resolve, resolve] at next
            simp [follow, start, next, tree.short next, resolve]
      rw [List.foldlM_cons, followed]
      apply (induction onward).trans
      rw [← resolve_append]
      rfl

namespace OpenTo

variable {output : Path}

theorem keeps (opened : files.OpenTo output) (keeps : Keeps files after) :
    after.OpenTo output := by
  intro passed listed
  rw [keeps.workingDirectory]
  exact keeps.directory (opened listed)

theorem directory (opened : files.OpenTo output) :
    files.item? (lexicalLocation files output) = some .directory :=
  opened List.prefix_rfl

theorem steps (opened : files.OpenTo output) {passed : List Component}
    (listed : passed <+: output.steps) :
    files.item? (resolve files.workingDirectory passed) = some .directory := by
  obtain ⟨kept, within, same⟩ := exists_components_prefix listed
  rw [same]
  exact opened within

/-- What a path below an open one passes is a directory already or lies below
the open one. -/
theorem passed_cases (opened : files.OpenTo output) {names : List String}
    {passed : List Component}
    (listed : passed <+: output.components ++ names.map .name) :
    files.item? (resolve files.workingDirectory passed) = some .directory ∨
      ∃ above, above ≠ [] ∧ above <+: names ∧
        resolve files.workingDirectory passed =
          lexicalLocation files output ++ above := by
  rcases Path.prefix_append_cases listed with before |
    ⟨between, ⟨later, within⟩, rfl⟩
  · exact .inl (opened before)
  · obtain ⟨above, rest, rfl, rfl, -⟩ := List.map_eq_append_iff.mp within.symm
    rw [resolve_append, resolve_names]
    by_cases none : above = []
    · rw [none, List.append_nil]
      exact .inl opened.directory
    · exact .inr ⟨above, none, List.prefix_append .., rfl⟩

variable {above : List String} {name : String}

/-- Below an open path, a file can be written in a directory, unless its name
is too long or belongs to a directory. -/
theorem writeFile_eq_ok (opened : files.OpenTo output) (tree : files.IsTree)
    (proper : ∀ other ∈ above ++ [name], Path.IsFileName other)
    (parent : files.item? (lexicalLocation files output ++ above) =
      some .directory)
    (short : isNameTooLong name = false)
    (free : files.isDirectoryAt
      (lexicalLocation files output ++ above ++ [name]) = false)
    (content : Content) :
    writeFile (output.join (.ofNames (above ++ [name]))) content files =
      (.ok (lexicalLocation files output ++ above ++ [name]),
        files.put (lexicalLocation files output ++ above ++ [name])
          (.file content)) := by
  have spelled : (output.join (.ofNames (above ++ [name]))).steps =
      output.steps ++ above.map .name ++ [.name name] := by
    rw [Path.steps_join_ofNames proper, List.map_append, List.append_assoc]
    rfl
  have leads : resolve files.workingDirectory
      (output.steps ++ above.map .name) =
        lexicalLocation files output ++ above := by
    rw [resolve_append, resolve_names, ← resolve_components, lexicalLocation]
  have followed : (output.steps ++ above.map Component.name).foldlM files.follow
      files.workingDirectory = .ok (lexicalLocation files output ++ above) := by
    rw [← leads]
    apply foldlM_follow_of_open tree
    intro passed listed
    rcases Path.prefix_append_cases listed with before |
      ⟨between, ⟨later, within⟩, rfl⟩
    · exact opened.steps before
    · obtain ⟨higher, rest, rfl, rfl, -⟩ :=
        List.map_eq_append_iff.mp within.symm
      apply tree.item?_prefix parent
      rw [resolve_append, resolve_names, ← resolve_components]
      exact (List.prefix_append_right_inj _).mpr (List.prefix_append ..)
  have noSlash :
      (output.join (.ofNames (above ++ [name]))).endsInSlash = false :=
    Path.endsInSlash_join_ofNames proper (by simp)
  apply get_bind_ran.mpr
  simp only [spelled, List.getLast?_concat, List.dropLast_concat, followed,
    isDirectoryAt, parent, noSlash, short]
  rw [isDirectoryAt] at free
  simp only [free]
  exact set_bind_ran.mpr (pure_ran.mpr ⟨rfl, rfl⟩)

end OpenTo

end WorkbookSite.FileSystem

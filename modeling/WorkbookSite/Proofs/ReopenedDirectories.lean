import WorkbookSite.Proofs.ClearedOutput
import WorkbookSite.Proofs.SuccessfulBuilds

/-!
# Directories that are there already

Making directories that are there already changes nothing.  So what is done
below a path that is open depends on the place the path leads to, and not on
the way it takes.
-/

namespace WorkbookSite

namespace FileAction

theorem orElseFail_eq {ε α : Type} (action : FileAction Refusal α) (error : ε)
    (files : FileSystem) :
    action.orElseFail error files =
      ((action files).1.mapError fun _ => error, (action files).2) := rfl

theorem orElseFail_of_succeeded {ε α : Type} {action : FileAction Refusal α}
    {error : ε} {files after : FileSystem} {value : α}
    (here : action files = (.ok value, after)) :
    action.orElseFail error files = (.ok value, after) := by
  rw [orElseFail_eq, here]
  rfl

theorem orElseFail_of_failed {ε α : Type} {action : FileAction Refusal α}
    {error : ε} {files after : FileSystem} {refusal : Refusal}
    (here : action files = (.error refusal, after)) :
    action.orElseFail error files = (.error error, after) := by
  rw [orElseFail_eq, here]
  rfl

end FileAction

namespace FileSystem

open CleanGuard FileAction

variable {files after : FileSystem} {here place : Location} {path : Path}
  {names : List String}

theorem makeAlong_append_of_open {passing : List Component}
    (opened : ∀ ⦃passed⦄, passed <+: passing →
      files.item? (resolve here passed) = some .directory)
    (rest : List Component) :
    makeAlong here (passing ++ rest) files =
      makeAlong (resolve here passing) rest files := by
  induction passing generalizing here with
  | nil => rfl
  | cons component passing induction =>
      have onward : ∀ ⦃passed⦄, passed <+: passing →
          files.item? (resolve (resolve here [component]) passed) =
            some .directory := by
        intro passed listed
        rw [← resolve_append]
        exact opened (List.cons_prefix_cons.mpr ⟨rfl, listed⟩)
      have later := induction onward
      cases component with
      | root | current | parent => exact later
      | name name =>
          have next : files.item? (here ++ [name]) = some .directory :=
            onward List.nil_prefix
          rw [List.cons_append, makeAlong, get_bind_eq]
          simp only [next]
          exact later

theorem makeAlong_of_open {passing : List Component}
    (opened : ∀ ⦃passed⦄, passed <+: passing →
      files.item? (resolve here passed) = some .directory) :
    makeAlong here passing files = (.ok (), files) := by
  have passed := makeAlong_append_of_open opened []
  rwa [List.append_nil] at passed

/-- Names that lead from one directory to another are passed without a
change. -/
theorem makeAlong_names (tree : files.IsTree)
    (directory : files.item? (here ++ names) = some .directory) :
    makeAlong here (names.map .name) files = (.ok (), files) := by
  apply makeAlong_of_open
  intro passed listed
  obtain ⟨later, spelled⟩ := listed
  obtain ⟨above, rest, rfl, rfl, -⟩ := List.map_eq_append_iff.mp spelled.symm
  rw [resolve_names]
  apply tree.item?_prefix directory
  rw [← List.append_assoc]
  exact List.prefix_append ..

/-- Only a path that ends in a `.` after a name is looked up when the
directories above it are there. -/
theorem makeDirectories_cases (files : FileSystem) (path : Path) :
    makeDirectories path files =
        makeAlong files.workingDirectory path.components files ∨
      ∃ name, path.steps.getLast? = some .current ∧
        path.components.getLast? = some (.name name) ∧
        makeDirectories path files = (do
          makeAlong files.workingDirectory path.components.dropLast
          let files ← get
          match files.locate path with
          | .ok _ => pure ()
          | .error refusal => throw refusal) files := by
  by_cases last : path.steps.getLast? = some .current
  · cases named : path.components.getLast? with
    | none =>
        rw [makeDirectories, get_bind_eq, last, named]
        exact .inl rfl
    | some component =>
        rw [makeDirectories, get_bind_eq, last, named]
        cases component with
        | name name => exact .inr ⟨name, rfl, rfl, rfl⟩
        | root | current | parent => exact .inl rfl
  · exact .inl (makeDirectories_eq last)

theorem file_makeDirectories {outcome : Except Refusal Unit}
    {content : Content}
    (ran : makeDirectories path files = (outcome, after)) :
    after.item? place = some (.file content) ↔
      files.item? place = some (.file content) := by
  have grown : Extends (fun _ _ _ => False) files after :=
    extends_makeDirectories (fun _ _ _ _ _ => id) ran
  have before : ∀ {content}, after.item? place = some (.file content) →
      files.item? place = some (.file content) := by
    intro content stored
    exact (grown.written stored).resolve_right fun ⟨_, never, _⟩ => never
  refine ⟨before, ?_⟩
  intro stored
  obtain ⟨latest, found⟩ := grown.file stored
  have same := before found
  rw [stored] at same
  cases same
  exact found

/-! ## Paths that lead to a directory -/

/-- The path is open, and it can be followed to the place. -/
structure LeadsTo (files : FileSystem) (path : Path) (place : Location) :
    Prop where
  way : files.OpenTo path
  followed : path.steps.foldlM files.follow files.workingDirectory = .ok place

theorem OpenTo.leadsTo (opened : files.OpenTo path) (tree : files.IsTree) :
    files.LeadsTo path (lexicalLocation files path) := by
  refine ⟨opened, ?_⟩
  rw [lexicalLocation, resolve_components]
  exact foldlM_follow_of_open tree fun _ => opened.steps

namespace LeadsTo

theorem keeps (leads : files.LeadsTo path place) (keeps : Keeps files after) :
    after.LeadsTo path place := by
  refine ⟨leads.way.keeps keeps, ?_⟩
  rw [keeps.workingDirectory]
  exact keeps.foldlM_follow leads.followed

theorem location (leads : files.LeadsTo path place) :
    lexicalLocation files path = place := by
  rw [foldlM_follow_eq_resolve leads.followed, lexicalLocation,
    resolve_components]

theorem directory (leads : files.LeadsTo path place) :
    files.item? place = some .directory := by
  rw [← leads.location]
  exact leads.way.directory

theorem locate (leads : files.LeadsTo path place)
    (written : path.isEmpty = false) : files.locate path = .ok place := by
  refine locate_eq_ok_iff.mpr ⟨written, place, leads.followed, ?_⟩
  split
  · simp [follow, leads.directory]
  · rfl

theorem makeAlong (leads : files.LeadsTo path place)
    (rest : List Component) :
    FileSystem.makeAlong files.workingDirectory (path.components ++ rest)
      files = FileSystem.makeAlong place rest files := by
  rw [makeAlong_append_of_open leads.way, ← lexicalLocation, leads.location]

/-- A directory that is there is not made again. -/
theorem makeDirectories (leads : files.LeadsTo path place) :
    FileSystem.makeDirectories path files = (.ok (), files) := by
  rcases makeDirectories_cases files path with same | ⟨name, last, -, same⟩
  · rw [same]
    exact makeAlong_of_open leads.way
  · have written : path.isEmpty = false := by
      apply isEmpty_eq_false_of_steps
      intro none
      simp [none] at last
    have part : FileSystem.makeAlong files.workingDirectory
        path.components.dropLast files = (.ok (), files) :=
      makeAlong_of_open fun _ listed =>
        leads.way (listed.trans (List.dropLast_prefix _))
    rw [same, bind_of_succeeded part, get_bind_eq, leads.locate written]
    rfl

theorem join_nil (leads : files.LeadsTo path place) :
    files.LeadsTo (path.join (.ofNames [])) place := by
  constructor
  · rw [OpenTo, Path.components_join_nil]
    exact leads.way
  · rw [Path.steps_join_nil]
    exact leads.followed

section

variable (leads : files.LeadsTo path place) (named : names ≠ [])
  (proper : ∀ name ∈ names, Path.IsFileName name)
include leads named proper

theorem makeDirectories_below :
    FileSystem.makeDirectories (path.join (.ofNames names)) files =
      FileSystem.makeAlong place (names.map .name) files := by
  rw [makeDirectories_eq, Path.components_join_ofNames proper, leads.makeAlong]
  rw [Path.steps_join_ofNames proper, ← List.dropLast_concat_getLast named,
    List.map_append, ← List.append_assoc]
  simp

theorem makeParents_below :
    FileSystem.makeParents (path.join (.ofNames names)) files =
      FileSystem.makeAlong place (names.dropLast.map .name) files := by
  rw [FileSystem.makeParents, get_bind_eq, Path.components_join_ofNames proper,
    List.dropLast_append_of_ne_nil (by simpa using named), ← List.map_dropLast,
    leads.makeAlong]

/-- Writing below an open path depends only on where the path leads. -/
theorem writeFile_below {other : Path} (same : files.LeadsTo other place)
    (content : Content) :
    FileSystem.writeFile (path.join (.ofNames names)) content files =
      FileSystem.writeFile (other.join (.ofNames names)) content files := by
  have spelled : ∀ base : Path, (base.join (.ofNames names)).steps =
      base.steps ++ names.dropLast.map .name ++
        [.name (names.getLast named)] := by
    intro base
    rw [Path.steps_join_ofNames proper, List.append_assoc]
    conv_lhs => rw [← List.dropLast_concat_getLast named, List.map_append]
    rfl
  unfold FileSystem.writeFile
  rw [get_bind_eq, get_bind_eq]
  simp only [spelled, List.getLast?_concat, List.dropLast_concat,
    List.foldlM_append, leads.followed, same.followed,
    Path.endsInSlash_join_ofNames proper named]

end

end LeadsTo

/-! ## Directories that are made -/

/-- A directory was made in a tree, or was there already. -/
structure Opened (files : FileSystem) (path : Path) (after : FileSystem) :
    Prop where
  tree : after.IsTree
  keeps : Keeps files after
  way : after.OpenTo path
  count : after.items.length ≤ files.items.length + path.components.length

theorem opened_of_makeDirectories (tree : files.IsTree)
    (ran : makeDirectories path files = (.ok (), after)) :
    files.Opened path after := by
  have proper : ∀ {components : List Component},
      components <+: path.components → ∀ name, .name name ∈ components →
        Path.IsFileName name :=
    fun listed _ within =>
      Path.isFileName_of_mem_components (listed.subset within)
  rcases makeDirectories_cases files path with same |
    ⟨name, last, named, same⟩
  · rw [same] at ran
    have along := makeAlong_ran tree tree.home (proper List.prefix_rfl) ran
    constructor
    · exact along.tree
    · exact along.keeps
    · intro passed listed
      rw [along.keeps.workingDirectory]
      exact along.opened rfl listed
    · exact along.count
  · rw [same] at ran
    obtain ⟨_, middle, made, checked⟩ := bind_succeeded ran
    have along := makeAlong_ran tree tree.home
      (proper (List.dropLast_prefix _)) made
    replace checked := get_bind_ran.mp checked
    cases located : middle.locate path with
    | error refusal =>
        simp only [located] at checked
        cases (throw_ran.mp checked).1
    | ok place =>
        simp only [located] at checked
        obtain ⟨-, rfl⟩ := pure_ran.mp checked
        constructor
        · exact along.tree
        · exact along.keeps
        · intro passed listed
          obtain ⟨above, spelled⟩ := List.getLast?_eq_some_iff.mp named
          rw [spelled] at listed
          rcases List.prefix_concat_iff.mp listed with whole | within
          · rw [whole, ← spelled, ← lexicalLocation,
              ← locate_eq_lexicalLocation located]
            exact directory_of_locate last located
          · rw [along.keeps.workingDirectory]
            apply along.opened rfl
            rwa [spelled, List.dropLast_concat]
        · have fewer := along.count
          rw [List.length_dropLast] at fewer
          omega

end FileSystem

end WorkbookSite

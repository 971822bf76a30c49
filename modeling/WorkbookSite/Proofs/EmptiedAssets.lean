import WorkbookSite.Proofs.ReopenedDirectories

/-!
# Assets that are copied onto themselves

A file is empty as soon as a copy to its place is opened.  So when a directory
is copied onto itself, nothing fails, and all files in it are empty in the end.
-/

namespace WorkbookSite.Build

open FileSystem CleanGuard FileAction

variable {opened files after : FileSystem} {output : Path}
  {done : Location → Prop}

/-- The files at the places that are done are empty, and all else is as it
was. -/
structure Emptied (opened : FileSystem) (done : Location → Prop)
    (files : FileSystem) : Prop where
  tree : files.IsTree
  settled : files.workingDirectory = opened.workingDirectory
  rest : ∀ ⦃place⦄,
    (∀ content, opened.item? place ≠ some (.file content)) →
      files.item? place = opened.item? place
  emptied : ∀ ⦃place content⦄,
    opened.item? place = some (.file content) → done place →
      files.item? place = some (.file (.text ""))
  left : ∀ ⦃place content⦄,
    opened.item? place = some (.file content) → ¬ done place →
      files.item? place = some (.file content)

/-- Whatever is done before, the action succeeds, and then what is at the place
and below it is done as well. -/
def Empties (opened : FileSystem) (place : Location)
    (action : FileAction SiteError Nat) : Prop :=
  ∀ ⦃done files⦄, Emptied opened done files →
    ∃ count after, action files = (.ok count, after) ∧
      Emptied opened (fun other => done other ∨ place <+: other) after

namespace Emptied

theorem start (tree : opened.IsTree) (nothing : ∀ place, ¬ done place) :
    Emptied opened done opened :=
  ⟨tree, rfl, fun _ _ => rfl, fun place _ _ here => absurd here (nothing place),
    fun _ _ stored _ => stored⟩

section

variable (emptied : Emptied opened done files)
include emptied

/-- What is done matters at files only. -/
theorem congr {others : Location → Prop}
    (same : ∀ place content, opened.item? place = some (.file content) →
      (others place ↔ done place)) : Emptied opened others files :=
  ⟨emptied.tree, emptied.settled, emptied.rest,
    fun place content stored here =>
      emptied.emptied stored ((same place content stored).mp here),
    fun place content stored other => emptied.left stored fun here =>
      other ((same place content stored).mpr here)⟩

theorem keeps : Keeps opened files := by
  constructor
  · exact emptied.settled
  · intro place stored
    rw [emptied.rest (by simp [stored]), stored]
  · intro place content stored
    by_cases here : done place
    · exact ⟨_, emptied.emptied stored here⟩
    · exact ⟨_, emptied.left stored here⟩

theorem location :
    lexicalLocation files output = lexicalLocation opened output :=
  lexicalLocation_congr emptied.settled output

theorem isSome_item? (place : Location) :
    (files.item? place).isSome = true ↔
      (opened.item? place).isSome = true := by
  constructor
  · intro present
    by_contra absent
    have nothing : opened.item? place = none := by simpa using absent
    rw [emptied.rest (by simp [nothing]), nothing] at present
    cases present
  · exact emptied.keeps.isSome

/-- A file is put twice where one is stored: first with its content, then
without. -/
theorem put {place : Location} {name : String} {content latest : Content}
    (tree : opened.IsTree)
    (stored : opened.item? (place ++ [name]) = some (.file content)) :
    Emptied opened (fun other => done other ∨ other = place ++ [name])
      ((files.put (place ++ [name]) (.file latest)).put (place ++ [name])
        (.file (.text ""))) := by
  have inside : place ++ [name] ≠ [] := by simp
  have parent := emptied.keeps.directory (tree.parent stored)
  obtain ⟨current, there⟩ := emptied.keeps.file stored
  have noDirectory : files.isDirectoryAt (place ++ [name]) = false := by
    rw [isDirectoryAt, there]
    rfl
  have once : (files.put (place ++ [name]) (.file latest)).IsTree :=
    emptied.tree.put parent (tree.named stored) (tree.short stored)
      (.inr noDirectory)
  have elsewhere : ∀ {other}, other ≠ place ++ [name] →
      ((files.put (place ++ [name]) (.file latest)).put (place ++ [name])
        (.file (.text ""))).item? other = files.item? other := by
    intro other away
    rw [item?_put _ _ inside, if_neg away, item?_put _ _ inside, if_neg away]
  have here : ((files.put (place ++ [name]) (.file latest)).put
      (place ++ [name]) (.file (.text ""))).item? (place ++ [name]) =
        some (.file (.text "")) := by
    rw [item?_put _ _ inside, if_pos rfl]
  constructor
  · apply once.put _ (tree.named stored) (tree.short stored)
    · right
      rw [isDirectoryAt, item?_put _ _ inside, if_pos rfl]
      rfl
    · rw [item?_put _ _ inside, if_neg (by simp)]
      exact parent
  · exact emptied.settled
  · intro other noFile
    rw [elsewhere (by rintro rfl; exact noFile content stored)]
    exact emptied.rest noFile
  · intro other old before either
    by_cases same : other = place ++ [name]
    · rw [same]
      exact here
    · rw [elsewhere same]
      exact emptied.emptied before (either.resolve_right same)
  · intro other old before neither
    rw [not_or] at neither
    rw [elsewhere neither.2]
    exact emptied.left before neither.1

section

variable (tree : opened.IsTree) (way : opened.OpenTo output)
include tree way

theorem copyFile {names : List String} {content latest : Content}
    (named : names ≠ [])
    (stored : opened.item? (lexicalLocation opened output ++ names) =
      some (.file content)) :
    ∃ after, FileSystem.copyFile (lexicalLocation opened output ++ names) latest
        (output.join (.ofNames names)) files = (.ok (), after) ∧
      Emptied opened (fun place => done place ∨
        place = lexicalLocation opened output ++ names) after := by
  obtain ⟨above, name, rfl⟩ : ∃ above name, names = above ++ [name] :=
    ⟨_, _, (List.dropLast_concat_getLast named).symm⟩
  have proper : ∀ other ∈ above ++ [name], Path.IsFileName other :=
    fun other listed => (tree.isFileName_of_mem stored
      (List.mem_append_right _ listed)).1
  rw [← List.append_assoc] at stored ⊢
  obtain ⟨current, there⟩ := emptied.keeps.file stored
  have parent := emptied.keeps.directory (tree.parent stored)
  have noDirectory : files.isDirectoryAt
      (lexicalLocation opened output ++ above ++ [name]) = false := by
    rw [isDirectoryAt, there]
    rfl
  have wrote := (way.keeps emptied.keeps).writeFile_eq_ok emptied.tree proper
    (emptied.location ▸ parent) (tree.short stored)
    (emptied.location ▸ noDirectory) latest
  rw [emptied.location] at wrote
  refine ⟨_, ?_, @put _ _ _ emptied _ _ _ latest tree stored⟩
  rw [FileSystem.copyFile, bind_of_succeeded wrote, if_pos rfl]
  rfl

theorem makeDirectories {names : List String} (named : names ≠ [])
    (stored : opened.item? (lexicalLocation opened output ++ names) =
      some .directory) :
    FileSystem.makeDirectories (output.join (.ofNames names)) files =
      (.ok (), files) := by
  have leads := (way.leadsTo tree).keeps emptied.keeps
  have proper : ∀ other ∈ names, Path.IsFileName other :=
    fun other listed => (tree.isFileName_of_mem stored
      (List.mem_append_right _ listed)).1
  rw [leads.makeDirectories_below named proper]
  exact makeAlong_names emptied.tree (emptied.keeps.directory stored)

end

end

/-- The loop over the children of a directory empties what is in each child. -/
theorem children {source : Location}
    {copyInside : List String → FileAction SiteError Nat}
    {names children : List String} (count : Nat)
    (each : ∀ child ∈ children,
      Empties opened (source ++ (names ++ [child]))
        (copyInside (names ++ [child])))
    (emptied : Emptied opened done files) :
    ∃ total after, (children.foldlM (fun count child => do
          let copied ← copyInside (names ++ [child])
          pure (count + copied)) count : FileAction SiteError Nat) files =
        (.ok total, after) ∧
      Emptied opened (fun place => done place ∨
        ∃ child ∈ children, source ++ (names ++ [child]) <+: place) after := by
  induction children generalizing done files count with
  | nil =>
      refine ⟨count, files, rfl, emptied.congr ?_⟩
      simp
  | cons child children induction =>
      obtain ⟨here, others⟩ := List.forall_mem_cons.mp each
      obtain ⟨copied, middle, ran, between⟩ := here emptied
      obtain ⟨total, after, rest, final⟩ :=
        induction (count + copied) others between
      refine ⟨total, after, ?_, final.congr ?_⟩
      · rw [List.foldlM_cons]
        have first : (do
            let copied ← copyInside (names ++ [child])
            pure (count + copied) : FileAction SiteError Nat) files =
              (.ok (count + copied), middle) := by
          rw [bind_of_succeeded ran]
          rfl
        rw [bind_of_succeeded first]
        exact rest
      · intro place _ _
        simp only [List.exists_mem_cons_iff, or_assoc]

/-- Nothing is below a file. -/
theorem prefix_iff_of_file (tree : opened.IsTree) {file place : Location}
    {content other : Content}
    (here : opened.item? file = some (.file content))
    (stored : opened.item? place = some (.file other)) :
    file <+: place ↔ place = file := by
  constructor
  · rintro ⟨below, rfl⟩
    by_cases last : below = []
    · rw [last, List.append_nil]
    · rw [tree.item?_above stored last] at here
      cases here
  · rintro rfl
    exact List.prefix_rfl

/-- A file is below a directory if it is below one of its children. -/
theorem prefix_iff_of_directory {directory place : Location}
    {children : List String} {content : Content}
    (listed : ∀ ⦃name below⦄, place = directory ++ name :: below →
      name ∈ children)
    (entered : opened.item? directory = some .directory)
    (stored : opened.item? place = some (.file content)) :
    directory <+: place ↔
      ∃ child ∈ children, directory ++ [child] <+: place := by
  constructor
  · rintro ⟨names, rfl⟩
    cases names with
    | nil =>
        rw [List.append_nil, entered] at stored
        cases stored
    | cons name below =>
        refine ⟨name, listed rfl, ?_⟩
        exact ⟨below, by rw [List.append_assoc]; rfl⟩
  · rintro ⟨child, -, below⟩
    exact (List.prefix_append ..).trans below

theorem mem_children (tree : opened.IsTree)
    (emptied : Emptied opened done files)
    {directory : Location} {name : String} {below : List String} {item : Item}
    (stored : opened.item? (directory ++ name :: below) = some item) :
    name ∈ files.children directory := by
  rw [mem_children_iff, emptied.isSome_item?]
  rw [List.append_cons] at stored
  exact tree.isSome_item?_above stored

/-- A place that is copied onto itself is done. -/
theorem copyPlace (tree : opened.IsTree) (way : opened.OpenTo output)
    {levels : Nat} {names : List String} {item : Item} (named : names ≠ [])
    (enough : opened.items.length < names.length + levels)
    (stored : opened.item? (lexicalLocation opened output ++ names) =
      some item) :
    Empties opened (lexicalLocation opened output ++ names)
      (Assets.copyPlace (lexicalLocation opened output) output levels names) :=
    by
  induction levels generalizing names item with
  | zero =>
      have bound := tree.length_le stored
      rw [List.length_append] at bound
      omega
  | succ levels induction =>
      intro done files emptied
      rw [Assets.copyPlace, Assets.copyItem, get_bind_eq]
      cases item with
      | file content =>
          obtain ⟨latest, there⟩ := emptied.keeps.file stored
          obtain ⟨after, copied, final⟩ :=
            @copyFile _ _ _ _ emptied tree way _ _ latest named stored
          simp only [there]
          refine ⟨1, after, ?_, final.congr ?_⟩
          · rw [bind_of_succeeded (orElseFail_of_succeeded copied)]
            rfl
          · intro place other found
            exact or_congr_right (prefix_iff_of_file tree stored found)
      | directory =>
          have there := emptied.keeps.directory stored
          have made := emptied.makeDirectories tree way named stored
          have each : ∀ child ∈ files.children
              (lexicalLocation opened output ++ names),
              Empties opened
                (lexicalLocation opened output ++ (names ++ [child]))
                (Assets.copyPlace (lexicalLocation opened output) output levels
                  (names ++ [child])) := by
            intro child listed
            rw [mem_children_iff, emptied.isSome_item?, List.append_assoc]
              at listed
            obtain ⟨item, found⟩ := Option.isSome_iff_exists.mp listed
            apply induction (by simp) _ found
            rw [List.length_append, List.length_singleton]
            omega
          obtain ⟨count, after, copied, final⟩ := children 0 each emptied
          simp only [there]
          refine ⟨count, after, ?_, final.congr ?_⟩
          · rw [bind_of_succeeded (orElseFail_of_succeeded made)]
            exact copied
          · intro place content found
            apply or_congr_right
            simp only [← List.append_assoc]
            apply prefix_iff_of_directory ?_ stored found
            rintro name below rfl
            exact mem_children tree emptied found

end Emptied

/-- Assets that are copied from the output directory to the output directory
are all empty afterwards. -/
theorem emptied_writeAssets {source : Path} (tree : files.IsTree)
    (located : files.locate source = .ok (lexicalLocation files output))
    (directory : files.item? (lexicalLocation files output) = some .directory)
    (made : makeDirectories (output.join (.ofNames [])) files =
      (.ok (), opened)) :
    ∃ count after, writeAssets source output files = (.ok count, after) ∧
      Emptied opened (fun place => lexicalLocation files output <+: place)
        after := by
  have grown := opened_of_makeDirectories tree made
  have way : opened.OpenTo output := by
    have way := grown.way
    rwa [OpenTo, Path.components_join_nil] at way
  have bound := grown.count
  rw [Path.components_join_nil] at bound
  have here := grown.keeps.lexicalLocation output
  have start : Emptied opened (fun _ => False) opened :=
    .start grown.tree fun _ => id
  have each : ∀ child ∈ files.children (lexicalLocation files output),
      Empties opened (lexicalLocation files output ++ ([] ++ [child]))
        (Assets.copyPlace (lexicalLocation files output) output
          (files.items.length + output.components.length)
          ([] ++ [child])) := by
    intro child listed
    obtain ⟨item, found⟩ := Option.isSome_iff_exists.mp
      (grown.keeps.isSome (mem_children_iff.mp listed))
    rw [← here] at found ⊢
    apply Emptied.copyPlace grown.tree way (by simp) _ found
    rw [List.length_singleton]
    omega
  obtain ⟨count, after, copied, final⟩ := Emptied.children 0 each start
  refine ⟨count, after, ?_, final.congr ?_⟩
  · rcases writeAssets_eq files source output with ⟨absent, -⟩ |
      ⟨location, leads, -, same⟩
    · simp [isDirectory, find?, located, directory] at absent
    · rw [located] at leads
      cases leads
      rw [same, bind_of_succeeded (orElseFail_of_succeeded made)]
      exact copied
  · intro place content found
    rw [false_or]
    simp only [← List.append_assoc, List.append_nil]
    have stored := (file_makeDirectories made).mp found
    apply Emptied.prefix_iff_of_directory ?_ directory stored
    rintro name below rfl
    exact Emptied.mem_children tree (.start tree fun _ => id) stored

end WorkbookSite.Build

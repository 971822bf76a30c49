import WorkbookSite.Proofs.ClearedOutput
import WorkbookSite.Proofs.SuccessfulBuilds

/-!
# Output directories that are filled

Once the output directory is open, a build puts items below it where they are
planned.  This can fail only if the plan does not fit: if a place is to hold a
directory and a file, or a name is too long.
-/

namespace WorkbookSite

open FileSystem CleanGuard FileAction

inductive ItemKind where
  | directory
  | file
deriving DecidableEq

def Item.kind : Item → ItemKind
  | .directory => .directory
  | .file _ => .file

theorem Item.eq_directory_of_kind {item : Item}
    (kind : item.kind = .directory) : item = .directory := by
  cases item with
  | directory => rfl
  | file content => cases kind

/-- The item at a place keeps its kind. -/
theorem FileSystem.Keeps.kind {before after : FileSystem} {place : Location}
    {item : Item} (keeps : Keeps before after)
    (stored : before.item? place = some item) :
    ∃ latest, after.item? place = some latest ∧ latest.kind = item.kind := by
  cases item with
  | directory => exact ⟨.directory, keeps.directory stored, rfl⟩
  | file content =>
      obtain ⟨latest, found⟩ := keeps.file stored
      exact ⟨.file latest, found, rfl⟩

namespace Build

/-- What is to be below the output directory, by the names that lead there. -/
abbrev Plan := List String → ItemKind → Prop

/-- The plan covers what is there, and the directories above what is
planned. -/
structure Plan.Closed (planned : Plan) (opened : FileSystem)
    (output : Path) : Prop where
  present : ∀ ⦃names item⦄, names ≠ [] →
    opened.item? (lexicalLocation opened output ++ names) = some item →
      planned names item.kind
  above : ∀ ⦃names below kind⦄, planned (names ++ below) kind →
    names ≠ [] → below ≠ [] → planned names .directory

/-- No place is to hold a directory and a file, and no name is too long. -/
structure Plan.Fits (planned : Plan) : Prop where
  single : ∀ ⦃names⦄, planned names .directory → ¬ planned names .file
  short : ∀ ⦃names kind⦄, planned names kind → ∀ name ∈ names,
    isNameTooLong name = false

/-- Since the output directory was opened, only what is planned was put below
it; and since some earlier point, nothing was taken away. -/
structure Filling (planned : Plan) (opened : FileSystem) (output : Path)
    (earlier files : FileSystem) : Prop where
  tree : files.IsTree
  grown : Keeps opened files
  keeps : Keeps earlier files
  put : ∀ ⦃place⦄, files.item? place ≠ opened.item? place →
    ∃ names item, names ≠ [] ∧
      place = lexicalLocation opened output ++ names ∧
      files.item? place = some item ∧ planned names item.kind

variable {planned : Plan} {opened earlier files after : FileSystem}
  {output : Path}

namespace Filling

theorem start (tree : opened.IsTree) :
    Filling planned opened output opened opened := by
  constructor
  · exact tree
  · exact .refl opened
  · exact .refl opened
  · intro place changed
    exact absurd rfl changed

theorem again (filling : Filling planned opened output earlier files) :
    Filling planned opened output files files :=
  ⟨filling.tree, filling.grown, .refl files, filling.put⟩

section

variable (filling : Filling planned opened output earlier files)
include filling

theorem location :
    lexicalLocation files output = lexicalLocation opened output :=
  filling.grown.lexicalLocation output

theorem planned_of_item? (closed : planned.Closed opened output)
    {names : List String} {item : Item} (inside : names ≠ [])
    (stored : files.item? (lexicalLocation opened output ++ names) =
      some item) : planned names item.kind := by
  by_cases same : files.item? (lexicalLocation opened output ++ names) =
      opened.item? (lexicalLocation opened output ++ names)
  · exact closed.present inside (same.symm.trans stored)
  · obtain ⟨others, found, -, place, there, listed⟩ := filling.put same
    rw [← List.append_cancel_left place] at listed
    rw [stored] at there
    cases there
    exact listed

/-- What is not below the output directory is as it was. -/
theorem outside {place : Location}
    (elsewhere : ∀ names, place ≠ lexicalLocation opened output ++ names) :
    files.item? place = opened.item? place := by
  by_contra changed
  obtain ⟨names, item, -, here, -⟩ := filling.put changed
  exact elsewhere names here

/-- More is put, where it is planned. -/
theorem step (tree : after.IsTree) (keeps : Keeps files after)
    (new : ∀ ⦃place⦄, after.item? place ≠ files.item? place →
      ∃ names item, names ≠ [] ∧
        place = lexicalLocation opened output ++ names ∧
        after.item? place = some item ∧ planned names item.kind) :
    Filling planned opened output earlier after := by
  constructor
  · exact tree
  · exact filling.grown.trans keeps
  · exact filling.keeps.trans keeps
  · intro place changed
    by_cases same : after.item? place = files.item? place
    · rw [same] at changed ⊢
      exact filling.put changed
    · exact new same

/-- Where a directory is planned, and the plan fits, nothing is in its way. -/
theorem not_obstructed (closed : planned.Closed opened output)
    (fits : planned.Fits) {above : List String} (inside : above ≠ [])
    (wanted : planned above .directory) {place : Location} {name : String}
    (same : place ++ [name] = lexicalLocation opened output ++ above) :
    ¬ (isNameTooLong name = true ∨
      ∃ content, files.item? (place ++ [name]) = some (.file content)) := by
  rintro (long | ⟨content, stored⟩)
  · obtain ⟨higher, last, rfl⟩ : ∃ higher last, above = higher ++ [last] :=
      ⟨_, _, (List.dropLast_concat_getLast inside).symm⟩
    rw [← List.append_assoc] at same
    obtain ⟨-, itself⟩ := List.append_inj' same rfl
    cases itself
    rw [fits.short wanted name (by simp)] at long
    cases long
  · rw [same] at stored
    exact fits.single wanted (filling.planned_of_item? closed inside stored)

/-- The directories that are missing on a path are made below the output
directory, if the plan fits. -/
theorem along (way : opened.OpenTo output)
    (closed : planned.Closed opened output) {names : List String}
    (proper : ∀ name ∈ names, Path.IsFileName name)
    (directory : ∀ above, above ≠ [] → above <+: names →
      planned above .directory)
    {outcome : Except Refusal Unit}
    (ran : makeAlong files.workingDirectory
      (output.components ++ names.map .name) files = (outcome, after)) :
    Filling planned opened output earlier after ∧
      (outcome = .ok () → after.item?
        (lexicalLocation opened output ++ names) = some .directory) ∧
      (planned.Fits → outcome = .ok ()) := by
  have fileNames : ∀ name, .name name ∈ output.components ++ names.map .name →
      Path.IsFileName name := by
    intro name listed
    rcases List.mem_append.mp listed with onTheWay | below
    · exact Path.isFileName_of_mem_components onTheWay
    · obtain ⟨other, within, same⟩ := List.mem_map.mp below
      cases same
      exact proper name within
  have opens := way.keeps filling.grown
  have along := makeAlong_ran filling.tree filling.tree.home fileNames ran
  refine ⟨filling.step along.tree along.keeps ?_, ?_, ?_⟩
  · intro place changed
    obtain ⟨absent, made, passed, listed, rfl⟩ := along.made changed
    rcases opens.passed_cases listed with there | ⟨above, inside, within, same⟩
    · rw [absent] at there
      cases there
    · rw [filling.location] at same
      exact ⟨above, .directory, inside, same, made,
        directory above inside within⟩
  · intro succeeded
    have there := along.opened succeeded List.prefix_rfl
    rw [resolve_append, resolve_names] at there
    rwa [← filling.location]
  · intro fits
    cases outcome with
    | ok value => rfl
    | error refusal =>
        obtain ⟨passed, name, listed, reason⟩ := along.stopped rfl
        have reached := opens.passed_cases listed
        rw [resolve_concat_name] at reached
        rcases reached with there | ⟨above, inside, within, same⟩
        · rcases reason with long | ⟨content, stored⟩
          · rw [filling.tree.short there] at long
            cases long
          · rw [there] at stored
            cases stored
        · rw [filling.location] at same
          exact absurd reason (filling.not_obstructed closed fits inside
            (directory above inside within) same)

theorem put_file {above : List String} {name : String} (content : Content)
    (parent : files.item? (lexicalLocation opened output ++ above) =
      some .directory)
    (proper : Path.IsFileName name) (short : isNameTooLong name = false)
    (free : files.isDirectoryAt
      (lexicalLocation opened output ++ above ++ [name]) = false)
    (listed : planned (above ++ [name]) .file) :
    Filling planned opened output earlier (files.put
      (lexicalLocation opened output ++ above ++ [name]) (.file content)) := by
  have inside : lexicalLocation opened output ++ above ++ [name] ≠ [] := by
    simp
  apply filling.step
  · exact filling.tree.put parent proper short (.inr free)
  · exact .put_file content inside free
  · intro place changed
    rw [item?_put _ _ inside] at changed ⊢
    by_cases same : place = lexicalLocation opened output ++ above ++ [name]
    · rw [if_pos same]
      exact ⟨above ++ [name], .file content, by simp,
        same.trans (List.append_assoc ..), rfl, listed⟩
    · rw [if_neg same] at changed
      exact absurd rfl changed

variable (way : opened.OpenTo output) (closed : planned.Closed opened output)
include way closed

theorem writeFile {above : List String} {name : String} {content : Content}
    {outcome : Except Refusal Location}
    (proper : ∀ other ∈ above ++ [name], Path.IsFileName other)
    (parent : files.item? (lexicalLocation opened output ++ above) =
      some .directory)
    (listed : planned (above ++ [name]) .file)
    (ran : writeFile (output.join (.ofNames (above ++ [name]))) content files =
      (outcome, after)) :
    Filling planned opened output earlier after ∧
      (∀ place, outcome = .ok place →
        place = lexicalLocation opened output ++ above ++ [name] ∧
          after.item? place = some (.file content)) ∧
      (planned.Fits → outcome =
        .ok (lexicalLocation opened output ++ above ++ [name])) := by
  have location := filling.location
  rw [← and_assoc]
  constructor
  · rcases writeFile_ran ran with ⟨refusal, rfl, rfl⟩ |
      ⟨place, rfl, rfl, inside, noDirectory, leads,
        higher, last, rfl, -, -, short⟩
    · exact ⟨filling, nofun⟩
    · have here := locate_eq_lexicalLocation leads
      rw [lexicalLocation_put, lexicalLocation_join_ofNames files proper,
        location, ← List.append_assoc] at here
      obtain ⟨rfl, same⟩ := List.append_inj' here rfl
      cases same
      constructor
      · exact filling.put_file content parent (proper name (by simp)) short
          noDirectory listed
      · intro place same
        cases same
        exact ⟨rfl, by rw [item?_put _ _ inside, if_pos rfl]⟩
  · intro fits
    have free : files.isDirectoryAt
        (lexicalLocation opened output ++ above ++ [name]) = false := by
      apply Bool.eq_false_iff.mpr
      intro directory
      have stored := beq_iff_eq.mp directory
      rw [List.append_assoc] at stored
      exact fits.single (filling.planned_of_item? closed (by simp) stored)
        listed
    rw [← location] at parent free
    have written := (way.keeps filling.grown).writeFile_eq_ok filling.tree
      proper parent (fits.short listed name (by simp)) free content
    rw [ran, location] at written
    exact (Prod.mk.inj written).1

theorem copyFile {above : List String} {name : String} {source : Location}
    {content : Content} {outcome : Except Refusal Unit}
    (proper : ∀ other ∈ above ++ [name], Path.IsFileName other)
    (parent : files.item? (lexicalLocation opened output ++ above) =
      some .directory)
    (listed : planned (above ++ [name]) .file)
    (ran : copyFile source content (output.join (.ofNames (above ++ [name])))
      files = (outcome, after)) :
    Filling planned opened output earlier after ∧
      (outcome = .ok () → ∃ latest, after.item?
        (lexicalLocation opened output ++ above ++ [name]) =
          some (.file latest)) ∧
      (planned.Fits → outcome = .ok ()) := by
  rcases bind_ran ran with ⟨place, middle, wrote, ended⟩ |
    ⟨refusal, wrote, rfl⟩
  · obtain ⟨filled, found, -⟩ :=
      filling.writeFile way closed proper parent listed wrote
    obtain ⟨rfl, stored⟩ := found place rfl
    split at ended
    · obtain ⟨rfl, rfl⟩ := Prod.mk.inj ended
      have kept :=
        (filling.again.writeFile way closed proper parent listed wrote).1.keeps
      have stillFile : middle.isDirectoryAt
          (lexicalLocation opened output ++ above ++ [name]) = false := by
        rw [isDirectoryAt, stored]
        rfl
      refine ⟨filled.put_file (.text "") (kept.directory parent)
        (proper name (by simp)) (filled.tree.short stored) stillFile listed,
        ?_, fun _ => rfl⟩
      intro _
      exact ⟨.text "", by rw [item?_put _ _ (by simp), if_pos rfl]⟩
    · obtain ⟨rfl, rfl⟩ := pure_ran.mp ended
      exact ⟨filled, fun _ => ⟨content, stored⟩, fun _ => rfl⟩
  · obtain ⟨filled, -, succeeds⟩ :=
      filling.writeFile way closed proper parent listed wrote
    constructor
    · exact filled
    · constructor
      · intro failed
        cases failed
      · intro fits
        exact absurd fits (Outcome.not_of_error succeeds refusal rfl)

theorem makeDirectories {names : List String}
    {outcome : Except Refusal Unit} (named : names ≠ [])
    (proper : ∀ name ∈ names, Path.IsFileName name)
    (listed : planned names .directory)
    (ran : makeDirectories (output.join (.ofNames names)) files =
      (outcome, after)) :
    Filling planned opened output earlier after ∧
      (outcome = .ok () → after.item?
        (lexicalLocation opened output ++ names) = some .directory) ∧
      (planned.Fits → outcome = .ok ()) := by
  have notCurrent :
      (output.join (.ofNames names)).steps.getLast? ≠ some .current := by
    rw [Path.steps_join_ofNames proper,
      ← List.dropLast_concat_getLast named, List.map_append,
      ← List.append_assoc]
    simp
  rw [makeDirectories_eq notCurrent, Path.components_join_ofNames proper] at ran
  apply filling.along way closed proper ?_ ran
  intro above inside within
  obtain ⟨below, rfl⟩ := within
  by_cases same : below = []
  · rwa [same, List.append_nil] at listed
  · exact closed.above listed inside same

end

variable (way : opened.OpenTo output) (closed : planned.Closed opened output)
include way closed

theorem writeDocument {document : RenderedDocument} {names : List String}
    (inner : Path.innerNames? ⟨document.path⟩ = some names)
    (listed : planned names .file) :
    Maintains (Filling planned opened output earlier)
      (fun _ => ¬ planned.Fits) (writeDocument output document) := by
  obtain ⟨named, proper⟩ := Path.isFileName_of_innerNames? inner
  obtain ⟨above, name, rfl⟩ : ∃ above name, names = above ++ [name] :=
    ⟨_, _, (List.dropLast_concat_getLast named).symm⟩
  have properAbove : ∀ other ∈ above, Path.IsFileName other :=
    fun other listed => proper other (List.mem_append_left _ listed)
  have file : documentFile output document =
      output.join (.ofNames (above ++ [name])) := by
    rw [documentFile, inner, Option.getD_some]
  have components : (documentFile output document).components.dropLast =
      output.components ++ above.map .name := by
    rw [file, Path.components_join_ofNames proper, List.map_append,
      ← List.append_assoc]
    exact List.dropLast_concat
  intro files filling
  have parents : ∀ {outcome after},
      makeParents (documentFile output document) files = (outcome, after) →
        Filling planned opened output earlier after ∧
          (outcome = .ok () → after.item?
            (lexicalLocation opened output ++ above) = some .directory) ∧
          (planned.Fits → outcome = .ok ()) := by
    intro outcome after ran
    replace ran := get_bind_ran.mp ran
    simp only [components] at ran
    apply filling.along way closed properAbove ?_ ran
    intro higher inside within
    obtain ⟨below, rfl⟩ := within
    rw [List.append_assoc] at listed
    exact closed.above listed inside (by simp)
  apply Establishes.andThen
  · intro error after stopped
    obtain ⟨result, made, failed⟩ := orElseFail_ran stopped
    obtain ⟨refusal, refused, rfl⟩ := Outcome.mapError_eq_error.mp failed
    obtain ⟨filled, -, succeeds⟩ := parents made
    exact ⟨filled, Outcome.not_of_error succeeds refusal refused⟩
  · intro _ middle ran
    obtain ⟨filled, opens, -⟩ := parents (orElseFail_succeeded ran)
    have written : Establishes middle (Filling planned opened output earlier)
        (fun _ => ¬ planned.Fits)
        (FileSystem.writeFile (documentFile output document)
          (.text document.document.toHtml)) := by
      intro outcome after wrote
      rw [file] at wrote
      obtain ⟨kept, -, succeeds⟩ :=
        filled.writeFile way closed proper (opens rfl) listed wrote
      exact ⟨kept, Outcome.not_of_error succeeds⟩
    apply Establishes.bind
    · exact .orElseFail written
    · intro _
      exact .pure ()

theorem writeSitemap {base : String} {documents : List RenderedDocument}
    (listed : planned ["sitemap.xml"] .file) :
    Maintains (Filling planned opened output earlier)
      (fun _ => ¬ planned.Fits) (writeSitemap base output documents) := by
  apply maintains_writeSitemap
  intro content files filling outcome after ran
  have name : (⟨"sitemap.xml"⟩ : Path) = .ofNames ([] ++ ["sitemap.xml"]) := by
    decide
  rw [name] at ran
  have parent : files.item? (lexicalLocation opened output ++ []) =
      some .directory := by
    rw [List.append_nil]
    exact filling.grown.directory way.directory
  obtain ⟨kept, -, succeeds⟩ :=
    filling.writeFile way closed (by decide) parent listed ran
  exact ⟨kept, Outcome.not_of_error succeeds⟩

end Filling

end Build

end WorkbookSite

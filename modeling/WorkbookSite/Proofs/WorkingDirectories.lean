import WorkbookSite.Proofs.PlainPaths
import WorkbookSite.Proofs.SuccessfulBuilds

/-!
# Builds that can start anywhere

An absolute path leads to the same place whatever the working directory is.  So
a build whose paths are absolute does the same from each working directory,
also from one that is removed on the way.
-/

namespace WorkbookSite

open FileSystem CleanGuard FileAction

/-- The same files, seen from another working directory. -/
def FileSystem.startingAt (files : FileSystem) (home : Location) :
    FileSystem :=
  { files with workingDirectory := home }

/-- The path does not depend on where relative paths start. -/
def Path.IsAnchored (path : Path) : Prop :=
  path.isAbsolute = true ∨ path.isEmpty = true

namespace FileAction

variable {ε α β : Type}

/-- From another working directory, the action gives the same and leaves the
same files. -/
def Anchored (action : FileAction ε α) : Prop :=
  ∀ files home, action (files.startingAt home) =
    ((action files).1, (action files).2.startingAt home)

namespace Anchored

theorem pure (value : α) : Anchored (Pure.pure value : FileAction ε α) :=
  fun _ _ => rfl

theorem throw (error : ε) :
    Anchored (MonadExcept.throw error : FileAction ε α) :=
  fun _ _ => rfl

theorem bind {first : FileAction ε α} {next : α → FileAction ε β}
    (start : Anchored first) (rest : ∀ value, Anchored (next value)) :
    Anchored (first >>= next) := by
  intro files home
  simp only [Bind.bind, ExceptT.bind, ExceptT.mk, ExceptT.bindCont,
    StateT.bind]
  rw [start files home]
  rcases first files with ⟨result, middle⟩
  cases result with
  | ok value => exact rest value middle home
  | error error => rfl

theorem get_bind {next : FileSystem → FileAction ε β}
    (same : ∀ files home, next (files.startingAt home) = next files)
    (each : ∀ files, Anchored (next files)) :
    Anchored (get >>= next : FileAction ε β) := by
  intro files home
  rw [get_bind_eq, get_bind_eq, same]
  exact each files files home

theorem orElseFail {action : FileAction Refusal α} {error : ε}
    (inner : Anchored action) : Anchored (action.orElseFail error) := by
  intro files home
  have named : ∀ start, action.orElseFail error start =
      ((action start).1.mapError fun _ => error, (action start).2) :=
    fun _ => rfl
  rw [named, named, inner files home]

theorem foldlM {items : List α} {body : β → α → FileAction ε β} {total : β}
    (each : ∀ total, ∀ item ∈ items, Anchored (body total item)) :
    Anchored (items.foldlM body total) := by
  induction items generalizing total with
  | nil => exact .pure total
  | cons item items induction =>
      rw [List.foldlM_cons]
      apply Anchored.bind (each total item List.mem_cons_self)
      intro next
      exact induction fun total other listed =>
        each total other (List.mem_cons_of_mem _ listed)

theorem forM {items : List α} {body : α → FileAction ε PUnit}
    (each : ∀ item ∈ items, Anchored (body item)) :
    Anchored (items.forM body) := by
  induction items with
  | nil => exact .pure _
  | cons item items induction =>
      apply Anchored.bind (each item List.mem_cons_self)
      intro _
      exact induction fun other listed =>
        each other (List.mem_cons_of_mem _ listed)

end Anchored

end FileAction

namespace Path

variable {path : Path}

theorem steps_of_isAbsolute (absolute : path.isAbsolute = true) :
    path.steps = .root :: writtenSteps path.text.toList := by
  rw [steps_eq_writtenSteps, if_pos absolute]

theorem components_of_isAbsolute (absolute : path.isAbsolute = true) :
    ∃ rest, path.components = .root :: rest := by
  rw [components, steps_of_isAbsolute absolute]
  exact ⟨_, rfl⟩

theorem components_of_isEmpty (empty : path.isEmpty = true) :
    path.components = [] := by
  obtain ⟨text⟩ := path
  obtain rfl : text = "" := beq_iff_eq.mp empty
  rfl

theorem isAbsolute_join {base : Path} (absolute : base.isAbsolute = true)
    (path : Path) : (base.join path).isAbsolute = true := by
  cases relative : path.isAbsolute with
  | true => rwa [join, if_pos relative]
  | false =>
      rcases toList_join base relative with ⟨-, nothing⟩ | ⟨same, -⟩
      · simp [isAbsolute, nothing] at absolute
      · rwa [same]

end Path

namespace FileSystem

variable {path : Path} (anchored : path.IsAnchored) (files : FileSystem)
  (home : Location)

include anchored

theorem locate_startingAt :
    (files.startingAt home).locate path = files.locate path := by
  rcases anchored with absolute | empty
  · rw [locate, locate, Path.steps_of_isAbsolute absolute, List.foldlM_cons,
      List.foldlM_cons]
    rfl
  · rw [locate, locate, if_pos empty, if_pos empty]
    rfl

theorem find?_startingAt :
    (files.startingAt home).find? path = files.find? path := by
  rw [find?, find?, locate_startingAt anchored]
  rfl

omit anchored in
theorem lexicalLocation_startingAt (absolute : path.isAbsolute = true) :
    lexicalLocation (files.startingAt home) path =
      lexicalLocation files path := by
  obtain ⟨rest, spelled⟩ := Path.components_of_isAbsolute absolute
  rw [lexicalLocation, lexicalLocation, spelled]
  rfl

theorem location?_startingAt :
    CleanGuard.location? (files.startingAt home) path =
      CleanGuard.location? files path := by
  rw [location?_eq, location?_eq]
  rcases anchored with absolute | empty
  · rw [lexicalLocation_startingAt files home absolute]
  · rw [if_pos empty, if_pos empty]

omit anchored in
theorem makeAlong_anchored (here : Location) (components : List Component) :
    Anchored (makeAlong here components) := by
  induction components generalizing here with
  | nil => exact .pure ()
  | cons component components induction =>
      cases component with
      | root | current | parent => exact induction _
      | name name =>
          intro files home
          rw [makeAlong, get_bind_eq, get_bind_eq]
          have same : (files.startingAt home).item? (here ++ [name]) =
              files.item? (here ++ [name]) := rfl
          rw [same]
          cases files.item? (here ++ [name]) with
          | some item =>
              cases item with
              | directory => exact induction _ files home
              | file content => rfl
          | none =>
              cases isNameTooLong name with
              | true => rfl
              | false =>
                  exact induction _ (files.put (here ++ [name]) .directory) home

omit files home in
/-- What is made on the way does not depend on where relative paths start. -/
theorem makeAlong_eq {components : List Component}
    (listed : components <+: path.components) (here there : Location) :
    makeAlong here components = makeAlong there components := by
  cases components with
  | nil => rfl
  | cons component components =>
      rcases anchored with absolute | empty
      · obtain ⟨rest, spelled⟩ := Path.components_of_isAbsolute absolute
        rw [spelled] at listed
        obtain ⟨rfl, -⟩ := List.cons_prefix_cons.mp listed
        rfl
      · rw [Path.components_of_isEmpty empty] at listed
        cases List.prefix_nil.mp listed

omit files home in
theorem makeDirectories_anchored : Anchored (makeDirectories path) := by
  apply Anchored.get_bind
  · intro files home
    split
    · rw [makeAlong_eq anchored (List.dropLast_prefix _)]
    · rw [makeAlong_eq anchored List.prefix_rfl]
  · intro files
    split
    · apply Anchored.bind (makeAlong_anchored _ _)
      intro _
      apply Anchored.get_bind
      · intro files home
        simp only [locate_startingAt anchored]
      · intro files
        split
        · exact .pure ()
        · exact .throw _
    · exact makeAlong_anchored _ _

omit files home in
theorem makeParents_anchored : Anchored (makeParents path) := by
  apply Anchored.get_bind
  · intro files home
    rw [makeAlong_eq anchored (List.dropLast_prefix _)]
  · intro files
    exact makeAlong_anchored _ _

/-- The directory of a file is the same from everywhere. -/
theorem follow_startingAt {name : String}
    (last : path.steps.getLast? = some (.name name)) :
    path.steps.dropLast.foldlM (files.startingAt home).follow
        (files.startingAt home).workingDirectory =
      path.steps.dropLast.foldlM files.follow files.workingDirectory := by
  rcases anchored with absolute | empty
  · rw [Path.steps_of_isAbsolute absolute] at last ⊢
    cases written : Path.writtenSteps path.text.toList with
    | nil => simp [written] at last
    | cons first others =>
        rw [List.dropLast_cons_of_ne_nil (List.cons_ne_nil first others),
          List.foldlM_cons, List.foldlM_cons]
        rfl
  · have none := Path.components_of_isEmpty empty
    have named := Path.name_mem_components (List.mem_of_getLast? last)
    rw [none] at named
    cases named

omit files home in
theorem writeFile_anchored (content : Content) :
    Anchored (writeFile path content) := by
  intro files home
  rw [writeFile, get_bind_eq, get_bind_eq]
  cases last : path.steps.getLast? with
  | none => rfl
  | some step =>
      cases step with
      | root | current | parent => rfl
      | name name =>
          simp only [follow_startingAt anchored files home last]
          cases path.steps.dropLast.foldlM files.follow
              files.workingDirectory with
          | error refusal => rfl
          | ok parent =>
              have same : ∀ place, (files.startingAt home).isDirectoryAt place =
                  files.isDirectoryAt place := fun _ => rfl
              simp only [same]
              split
              · rfl
              · rfl

omit files home in
theorem copyFile_anchored (source : Location) (content : Content) :
    Anchored (copyFile source content path) := by
  apply Anchored.bind (writeFile_anchored anchored content)
  intro place
  split
  · intro files home
    rfl
  · exact .pure ()

omit files home in
theorem removeTree_anchored : Anchored (removeTree path) := by
  intro files home
  rw [removeTree, get_bind_eq, get_bind_eq,
    locate_startingAt anchored files home]
  cases files.locate path with
  | error refusal => rfl
  | ok place =>
      simp only
      have same : (files.startingAt home).isDirectoryAt place =
          files.isDirectoryAt place := rfl
      rw [same]
      cases files.isDirectoryAt place with
      | false => rfl
      | true =>
          cases path.steps.getLast? with
          | none => rfl
          | some step =>
              cases step with
              | root | current | name => rfl
              | parent =>
                  have exist : ((files.startingAt home).removeBelow
                      place).pathExists path =
                        (files.removeBelow place).pathExists path :=
                    congrArg Option.isSome
                      (find?_startingAt anchored (files.removeBelow place) home)
                  simp only [exist]
                  cases (files.removeBelow place).pathExists path with
                  | true => rfl
                  | false => rfl

end FileSystem

theorem Assets.copyPlace_anchored {source : Location} {target : Path}
    (absolute : target.isAbsolute = true) (levels : Nat)
    (names : List String) :
    Anchored (copyPlace source target levels names) := by
  have place : ∀ names, (target.join (.ofNames names)).IsAnchored :=
    fun _ => .inl (Path.isAbsolute_join absolute _)
  induction levels generalizing names with
  | zero => exact .throw _
  | succ levels induction =>
      apply Anchored.get_bind
      · intro files home
        rfl
      · intro files
        cases files.item? (source ++ names) with
        | none => exact .pure 0
        | some item =>
            cases item with
            | file content =>
                apply Anchored.bind
                  (copyFile_anchored (place names) _ content).orElseFail
                intro _
                exact .pure 1
            | directory =>
                apply Anchored.bind
                  (makeDirectories_anchored (place names)).orElseFail
                intro _
                apply Anchored.foldlM
                intro total child _
                apply Anchored.bind (induction _)
                intro copied
                exact .pure _

/-- The paths of the settings do not depend on where relative paths start. -/
structure BuildSettings.IsAnchored (settings : BuildSettings) : Prop where
  site : settings.siteDirectory.IsAnchored
  spec : settings.specPath.IsAnchored
  static : settings.staticPath.IsAnchored
  output : settings.outputPath.isAbsolute = true

namespace Build

variable {settings : BuildSettings} {documents : List RenderedDocument}
  {source output : Path}

theorem removeOutput_anchored (anchored : output.IsAnchored) :
    Anchored (removeOutput output) := by
  intro files home
  rw [removeOutput, removeOutput, removeTree_anchored anchored files home]
  rcases removeTree output files with ⟨result, after⟩
  cases result with
  | ok value => rfl
  | error refusal =>
      cases refusal with
      | missing => rfl
      | obstructed => rfl

section

variable (absolute : output.isAbsolute = true)
include absolute

theorem writeAssets_anchored (anchored : source.IsAnchored) :
    Anchored (writeAssets source output) := by
  apply Anchored.get_bind
  · intro files home
    rw [isDirectory, isDirectory, find?_startingAt anchored]
  · intro files
    split
    · apply Anchored.get_bind
      · intro files home
        rw [locate_startingAt anchored]
        rfl
      · intro files
        split
        · exact .throw _
        · exact Assets.copyPlace_anchored absolute _ _
    · apply Anchored.bind (makeDirectories_anchored (.inl absolute)).orElseFail
      intro _
      exact .pure 0

theorem writeDocument_anchored (document : RenderedDocument) :
    Anchored (writeDocument output document) := by
  have file : (documentFile output document).IsAnchored :=
    .inl (Path.isAbsolute_join absolute _)
  apply Anchored.bind (makeParents_anchored file).orElseFail
  intro _
  apply Anchored.bind (writeFile_anchored file _).orElseFail
  intro _
  exact .pure ()

theorem writeSitemap_anchored (base : String) :
    Anchored (writeSitemap base output documents) := by
  have file : (output.join ⟨"sitemap.xml"⟩).IsAnchored :=
    .inl (Path.isAbsolute_join absolute _)
  apply Anchored.bind (writeFile_anchored file _).orElseFail
  intro _
  exact .pure ()

end

variable (anchored : settings.IsAnchored)
include anchored

theorem writeContents_anchored :
    Anchored (writeContents settings documents) := by
  apply Anchored.bind (writeAssets_anchored anchored.output anchored.static)
  intro assets
  apply Anchored.bind
  · apply Anchored.forM
    intro document _
    exact writeDocument_anchored anchored.output document
  · intro _
    cases settings.sitemapBase with
    | none => exact .pure assets
    | some base =>
        apply Anchored.bind (writeSitemap_anchored anchored.output base)
        intro _
        exact .pure assets

theorem writeOutput_anchored : Anchored (writeOutput settings documents) := by
  rw [writeOutput_eq]
  cases settings.clean with
  | false => exact writeContents_anchored anchored
  | true =>
      apply Anchored.bind (removeOutput_anchored (.inl anchored.output))
      intro _
      exact writeContents_anchored anchored

theorem guard_startingAt (files : FileSystem) (home : Location) :
    guard (files.startingAt home) settings = guard files settings := by
  have endangers : ∀ path, path.IsAnchored →
      CleanGuard.endangers (files.startingAt home) settings.outputPath path =
        CleanGuard.endangers files settings.outputPath path := by
    intro path here
    rw [CleanGuard.endangers, CleanGuard.endangers,
      location?_startingAt (.inl anchored.output), location?_startingAt here]
  rw [guard, guard, CleanGuard.check, CleanGuard.check,
    CleanGuard.endangered?, CleanGuard.endangered?]
  simp only [List.find?_cons, List.find?_nil, endangers _ anchored.site,
    endangers _ anchored.spec, endangers _ anchored.static]

theorem prepare_startingAt [WorkbookReader] (files : FileSystem)
    (home : Location) :
    prepare (files.startingAt home) settings = prepare files settings := by
  rw [prepare, prepare, load, load, Site.load, Site.load,
    locate_startingAt anchored.spec]
  rfl

/-- A build with absolute paths does the same from each working directory. -/
theorem run_anchored [WorkbookReader] : Anchored (run settings) := by
  apply Anchored.get_bind
  · intro files home
    rw [guard_startingAt anchored, prepare_startingAt anchored]
  · intro files
    apply Anchored.bind
    · cases guard files settings with
      | ok value => exact .pure value
      | error error => exact .throw error
    · intro _
      apply Anchored.bind
      · cases prepare files settings with
        | ok prepared => exact .pure prepared
        | error error => exact .throw error
      · intro prepared
        apply Anchored.bind (writeOutput_anchored anchored)
        intro assets
        exact .pure _

end Build

end WorkbookSite

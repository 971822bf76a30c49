import WorkbookSite.Proofs.MergedTrees

/-!
# Trees that are copied

A tree is copied to a path by making the directory that the path leads to, with
those on the way, and merging the tree into it.  If this succeeds, the files of
the tree are there with their content, and nothing else has changed but for the
directories on the way.  It succeeds only if no name is too long, no file is in
the way, and no place is a file on one side and a directory on the other,
counting the directories that the path passes.  If this is so and the system
takes the paths, it succeeds for every path that does not end in a `.`, and for
those that do if the directory is already there when they come to it.
-/

namespace WorkbookSite

namespace FileSystem

open CleanGuard FileAction

variable {files after : FileSystem} {path : Path} {place : Location}
  {outcome : Except Refusal Unit}

/-- The path passes the place, or leads to it. -/
def Passes (files : FileSystem) (path : Path) (place : Location) : Prop :=
  ∃ passed, passed <+: path.components ∧
    place = resolve files.workingDirectory passed

/-- Only directories that the path passes are made. -/
structure MadeAlong (files : FileSystem) (path : Path) (after : FileSystem) :
    Prop where
  ordered : files.InWalkOrder → after.InWalkOrder
  made : ∀ ⦃place⦄, after.item? place ≠ files.item? place →
    files.item? place = none ∧ after.item? place = some .directory ∧
      files.Passes path place

/-- To find a place changes nothing. -/
theorem after_of_located
    (ran : (do
      let files ← get
      match files.locate path with
      | .ok _ => pure ()
      | .error refusal => throw refusal : FileAction Refusal Unit) files =
        (outcome, after)) : after = files := by
  replace ran := get_bind_ran.mp ran
  cases located : files.locate path with
  | ok place =>
      simp only [located] at ran
      exact (pure_ran.mp ran).2.symm
  | error refusal =>
      simp only [located] at ran
      exact (throw_ran.mp ran).2.symm

theorem madeAlong_of_makeDirectories (tree : files.IsTree)
    (ran : makeDirectories path files = (outcome, after)) :
    files.MadeAlong path after := by
  have part : ∀ {components outcome after}, components <+: path.components →
      makeAlong files.workingDirectory components files = (outcome, after) →
        ∀ ⦃place⦄, after.item? place ≠ files.item? place →
          files.item? place = none ∧ after.item? place = some .directory ∧
            files.Passes path place := by
    intro components outcome after within ran place changed
    have along := makeAlong_ran tree tree.home (fun _ listed =>
      Path.isFileName_of_mem_components (within.subset listed)) ran
    obtain ⟨absent, directory, passed, listed, same⟩ := along.made changed
    exact ⟨absent, directory, passed, listed.trans within, same⟩
  constructor
  · intro ordered
    have writable := Build.Ordered.writable files.workingDirectory path
    exact (writable.makeOutput (.inl rfl) ⟨rfl, tree.named, ordered⟩
      ran).1.ordered
  · rcases makeDirectories_cases files path with same | ⟨name, -, -, same⟩
    · exact part List.prefix_rfl (same ▸ ran)
    · rw [same] at ran
      rcases bind_ran ran with ⟨_, middle, made, checked⟩ | ⟨_, made, -⟩
      · rw [after_of_located checked]
        exact part (List.dropLast_prefix _) made
      · exact part (List.dropLast_prefix _) made

/-- No name of the path is too long, and it passes no file. -/
structure Passable (files : FileSystem) (path : Path) : Prop where
  short : ∀ name, .name name ∈ path.components → isNameTooLong name = false
  way : ∀ place content, files.Passes path place →
    files.item? place ≠ some (.file content)

/-- If the path ends in a `.` after a name, the directory is there, or the path
has passed it before. -/
def EndsOpen (files : FileSystem) (path : Path) : Prop :=
  ∀ name, path.steps.getLast? = some .current →
    path.components.getLast? = some (.name name) →
      files.item? (lexicalLocation files path) = some .directory ∨
        ∃ passed, passed <+: path.components.dropLast ∧
          lexicalLocation files path = resolve files.workingDirectory passed

/-- Nothing keeps the directory that the path leads to from being made. -/
structure ClearTo (files : FileSystem) (path : Path) : Prop
    extends files.Passable path where
  ending : files.EndsOpen path

theorem ClearTo.makeDirectories (clear : files.ClearTo path)
    (tree : files.IsTree) :
    ∃ after, makeDirectories path files = (.ok (), after) := by
  have part : ∀ {components}, components <+: path.components →
      ∃ after, Along files.workingDirectory components files (.ok ()) after ∧
        makeAlong files.workingDirectory components files =
          (.ok (), after) := by
    intro components within
    rcases ran : makeAlong files.workingDirectory components files with
      ⟨outcome, after⟩
    have along := makeAlong_ran tree tree.home (fun _ listed =>
      Path.isFileName_of_mem_components (within.subset listed)) ran
    cases outcome with
    | ok _ => exact ⟨after, along, rfl⟩
    | error refusal =>
        obtain ⟨passed, name, listed, long | ⟨content, stored⟩⟩ :=
          along.stopped rfl
        · have short := clear.short name
            ((listed.trans within).subset (by simp))
          rw [long] at short
          cases short
        · rw [← resolve_concat_name] at stored
          exact absurd stored
            (clear.way _ content ⟨_, listed.trans within, rfl⟩)
  rcases makeDirectories_cases files path with same |
    ⟨name, last, named, same⟩
  · obtain ⟨after, -, made⟩ := part List.prefix_rfl
    exact ⟨after, same.trans made⟩
  · obtain ⟨middle, along, made⟩ := part (List.dropLast_prefix _)
    have opened : middle.OpenTo path := by
      intro passed listed
      obtain ⟨above, spelled⟩ := List.getLast?_eq_some_iff.mp named
      rw [spelled] at listed
      rw [along.keeps.workingDirectory]
      rcases List.prefix_concat_iff.mp listed with whole | within
      · rw [whole, ← spelled]
        rcases clear.ending name last named with
          directory | ⟨passed, before, same⟩
        · exact along.keeps.directory directory
        · rw [lexicalLocation] at same
          rw [same]
          exact along.opened rfl before
      · apply along.opened rfl
        rwa [spelled, List.dropLast_concat]
    have written : path.isEmpty = false := by
      apply isEmpty_eq_false_of_steps
      intro none
      simp [none] at last
    refine ⟨middle, ?_⟩
    rw [same, bind_of_succeeded made, get_bind_eq,
      (opened.leadsTo along.tree).locate written]
    rfl

/-- What is made was not kept from being made. -/
theorem clearTo_of_makeDirectories (tree : files.IsTree)
    (made : makeDirectories path files = (.ok (), after)) :
    files.ClearTo path := by
  have grown := opened_of_makeDirectories tree made
  have opened : ∀ {place}, files.Passes path place →
      after.item? place = some .directory := by
    rintro place ⟨passed, listed, rfl⟩
    rw [← grown.keeps.workingDirectory]
    exact grown.way listed
  refine ⟨⟨?_, ?_⟩, ?_⟩
  · intro name listed
    obtain ⟨before, later, spelled⟩ := List.append_of_mem listed
    have stored := opened ⟨before ++ [.name name],
      ⟨later, by rw [spelled, List.append_assoc]; rfl⟩, rfl⟩
    rw [resolve_concat_name] at stored
    exact grown.tree.short stored
  · intro place content passed stored
    have directory := opened passed
    rw [(file_makeDirectories made).mpr stored] at directory
    cases directory
  · intro name last named
    have reached := opened ⟨path.components, List.prefix_rfl, rfl⟩
    by_cases same : after.item? (lexicalLocation files path) =
        files.item? (lexicalLocation files path)
    · exact .inl (same ▸ reached)
    · right
      rw [makeDirectories, get_bind_eq, last, named] at made
      obtain ⟨_, middle, along, checked⟩ := bind_succeeded made
      obtain rfl := after_of_located checked
      obtain ⟨-, -, passed, listed, here⟩ := (makeAlong_ran tree tree.home
        (fun _ listed => Path.isFileName_of_mem_components
          ((List.dropLast_prefix _).subset listed)) along).made same
      exact ⟨passed, listed, here⟩

theorem ClearTo.respelled {other : Path} (clear : files.ClearTo path)
    (components : other.components = path.components)
    (steps : other.steps = path.steps) : files.ClearTo other := by
  refine ⟨⟨?_, ?_⟩, ?_⟩
  · rw [components]
    exact clear.short
  · rintro place content ⟨passed, listed, here⟩
    exact clear.way place content ⟨passed, components ▸ listed, here⟩
  · rw [EndsOpen, components, steps, lexicalLocation, components]
    exact clear.ending

/-- A slash after the path makes no difference. -/
theorem clearTo_join_nil_iff :
    files.ClearTo (path.join (.ofNames [])) ↔ files.ClearTo path := by
  constructor
  · intro clear
    exact clear.respelled path.components_join_nil.symm
      path.steps_join_nil.symm
  · intro clear
    exact clear.respelled path.components_join_nil path.steps_join_nil

end FileSystem

namespace Assets

open FileSystem CleanGuard FileAction

variable {files opened after : FileSystem} {source target : Path}
  {origin : Location} {count : Nat}

/-- The number of the files below a place. -/
def countFiles (files : FileSystem) (place : Location) : Nat :=
  ((files.below place).filter fun stored => stored.2.kind = .file).length

/-- The tree has been copied to where the path leads, and its files have been
counted; apart from them only directories that the path passes are new. -/
structure CopiedTree (files : FileSystem) (origin : Location) (target : Path)
    (count : Nat) (after : FileSystem) : Prop where
  leads : target.isEmpty = false →
    after.locate target = .ok (lexicalLocation files target)
  counted : count = countFiles files origin
  file : ∀ names content,
    files.item? (origin ++ names) = some (.file content) →
      after.item? (lexicalLocation files target ++ names) =
        some (.file content)
  directory : ∀ names, files.item? (origin ++ names) = some .directory →
    after.item? (lexicalLocation files target ++ names) = some .directory
  kept : ∀ names item, files.item? (origin ++ names) = none →
    files.item? (lexicalLocation files target ++ names) = some item →
      after.item? (lexicalLocation files target ++ names) = some item
  only : ∀ names item,
    after.item? (lexicalLocation files target ++ names) = some item →
      files.item? (origin ++ names) = some item ∨
        (files.item? (origin ++ names) = none ∧
          files.item? (lexicalLocation files target ++ names) = some item) ∨
        (item = .directory ∧ (files.Passes target (origin ++ names) ∨
          files.Passes target (lexicalLocation files target ++ names)))
  outside : ∀ place, ¬ lexicalLocation files target <+: place →
    after.item? place = files.item? place ∨
      files.item? place = none ∧ after.item? place = some .directory ∧
        files.Passes target place

/-- The names lead from the tree to something that was listed when the copy
began. -/
def Within (files : FileSystem) (origin : Location) (names : List String) :
    Prop :=
  names = [] ∨ ∃ child ∈ files.children origin, [] ++ [child] <+: names

/-- There is a directory at the place, or the path passes it. -/
def OnWay (files : FileSystem) (target : Path) (place : Location) : Prop :=
  files.item? place = some .directory ∨ files.Passes target place

/-- The tree fits where the path leads: no place is a file on one side and a
directory on the other. -/
structure Fits (files : FileSystem) (origin : Location) (target : Path) :
    Prop where
  passable : files.Passable target
  file : ∀ names content,
    files.item? (origin ++ names) = some (.file content) →
      ¬ OnWay files target (lexicalLocation files target ++ names)
  directory : ∀ names content, Within files origin names →
    files.item? (lexicalLocation files target ++ names) =
        some (.file content) → ¬ OnWay files target (origin ++ names)

theorem within_of_item? (tree : files.IsTree) {names : List String}
    {item : Item} (stored : files.item? (origin ++ names) = some item) :
    Within files origin names := by
  apply (prefix_iff_of_children tree ?_ stored).mp List.nil_prefix
  intro child
  rw [mem_children_iff]
  rfl

/-- The directory at the goal is open, and nothing has been copied yet. -/
structure Begun (files : FileSystem) (origin : Location) (target : Path)
    (opened : FileSystem) : Prop where
  grown : files.Opened (target.join (.ofNames [])) opened
  along : files.MadeAlong target opened
  leads : opened.LeadsTo target (lexicalLocation files target)
  kept : ∀ ⦃place content⦄, opened.item? place = some (.file content) ↔
    files.item? place = some (.file content)

theorem begun_of_makeDirectories (tree : files.IsTree)
    (made : makeDirectories (target.join (.ofNames [])) files =
      (.ok (), opened)) : Begun files origin target opened := by
  have grown := opened_of_makeDirectories tree made
  have along := madeAlong_of_makeDirectories tree made
  refine ⟨grown, ⟨along.ordered, ?_⟩, ?_, fun _ _ => file_makeDirectories made⟩
  · intro place changed
    have passed := along.made changed
    rwa [Passes, Path.components_join_nil] at passed
  · rw [← grown.keeps.lexicalLocation target]
    apply OpenTo.leadsTo _ grown.tree
    have way := grown.way
    rwa [OpenTo, Path.components_join_nil] at way

namespace Begun

variable (begun : Begun files origin target opened)
include begun

theorem item? {place : Location} {item : Item}
    (stored : files.item? place = some item) :
    opened.item? place = some item := by
  cases item with
  | directory => exact begun.grown.keeps.directory stored
  | file content => exact begun.kept.mpr stored

theorem item?_cases {place : Location} {item : Item}
    (stored : opened.item? place = some item) :
    files.item? place = some item ∨ files.item? place = none ∧
      item = .directory ∧ files.Passes target place := by
  by_cases same : opened.item? place = files.item? place
  · exact .inl (same ▸ stored)
  · obtain ⟨absent, directory, passed⟩ := begun.along.made same
    rw [stored] at directory
    exact .inr ⟨absent, Option.some.inj directory, passed⟩

theorem directory_iff_onWay {place : Location} :
    opened.item? place = some .directory ↔ OnWay files target place := by
  constructor
  · intro stored
    exact (begun.item?_cases stored).imp_right fun made => made.2.2
  · rintro (directory | ⟨passed, listed, rfl⟩)
    · exact begun.item? directory
    · rw [← begun.grown.keeps.workingDirectory]
      exact begun.leads.way listed

theorem not_clash (fits : Fits files origin target) :
    ¬ Clash opened origin (lexicalLocation files target)
      (Within files origin) := by
  rintro ⟨names, one, other, within, here, there, differ⟩
  cases one with
  | file content =>
      cases other with
      | file latest => exact differ rfl
      | directory =>
          exact fits.file names content (begun.kept.mp here)
            (begun.directory_iff_onWay.mp there)
  | directory =>
      cases other with
      | file content =>
          exact fits.directory names content within (begun.kept.mp there)
            (begun.directory_iff_onWay.mp here)
      | directory => exact differ rfl

/-- All files of the tree are counted, each once. -/
theorem counted (tree : files.IsTree) (ordered : files.InWalkOrder)
    (counted : HasFiles opened origin
      (fun names => ∃ child ∈ files.children origin, [] ++ [child] <+: names)
      count) : count = countFiles files origin := by
  obtain ⟨listed, distinct, rfl, members⟩ := counted
  let stored := (files.below origin).filter fun stored =>
    stored.2.kind = .file
  have different : (stored.map Prod.fst).Nodup := by
    rw [List.Nodup, List.pairwise_map]
    exact ((ordered.pairwise_below origin).filter _).imp ne_of_lt
  have same : listed.Perm (stored.map Prod.fst) := by
    apply (List.perm_ext_iff_of_nodup distinct different).mpr
    intro names
    rw [members, List.mem_map]
    constructor
    · rintro ⟨⟨child, -, rest, rfl⟩, content, found⟩
      refine ⟨(_, .file content), List.mem_filter.mpr ⟨?_, rfl⟩, rfl⟩
      exact ordered.mem_below_iff.mpr ⟨begun.kept.mp found, by simp⟩
    · rintro ⟨⟨others, item⟩, found, rfl⟩
      obtain ⟨below, kind⟩ := List.mem_filter.mp found
      obtain ⟨there, named⟩ := ordered.mem_below_iff.mp below
      cases item with
      | directory => simp [Item.kind] at kind
      | file content =>
          exact ⟨(within_of_item? tree there).resolve_left named, content,
            begun.kept.mpr there⟩
  rw [same.length_eq, List.length_map]
  rfl

section

variable (merged : Merged opened origin (lexicalLocation files target)
    (Within files origin) after)
include merged

theorem kept_of_merged {names : List String} {item : Item}
    (absent : files.item? (origin ++ names) = none)
    (stored : files.item? (lexicalLocation files target ++ names) =
      some item) :
    after.item? (lexicalLocation files target ++ names) = some item := by
  have before := begun.item? stored
  by_cases within : Within files origin names
  · cases new : opened.item? (origin ++ names) with
    | none => rw [merged.kept fun _ => new, before]
    | some other =>
        obtain ⟨-, rfl, -⟩ := (begun.item?_cases new).resolve_left
          (by rw [absent]; simp)
        have directory := merged.copied within new
        cases item with
        | directory => exact directory
        | file content =>
            obtain ⟨latest, there⟩ := merged.keeps.file before
            rw [directory] at there
            cases there
  · rw [merged.kept fun here => absurd here within, before]

theorem only_of_merged (tree : files.IsTree) {names : List String} {item : Item}
    (there : after.item? (lexicalLocation files target ++ names) =
      some item) :
    files.item? (origin ++ names) = some item ∨
      (files.item? (origin ++ names) = none ∧
        files.item? (lexicalLocation files target ++ names) = some item) ∨
      (item = .directory ∧ (files.Passes target (origin ++ names) ∨
        files.Passes target (lexicalLocation files target ++ names))) := by
  by_cases copied : Within files origin names ∧
      (opened.item? (origin ++ names)).isSome = true
  · obtain ⟨within, present⟩ := copied
    obtain ⟨other, new⟩ := Option.isSome_iff_exists.mp present
    rw [merged.copied within new] at there
    cases there
    rcases begun.item?_cases new with stored | ⟨-, directory, passed⟩
    · exact .inl stored
    · exact .inr (.inr ⟨directory, .inl passed⟩)
  · have same : after.item? (lexicalLocation files target ++ names) =
        opened.item? (lexicalLocation files target ++ names) := by
      apply merged.kept
      intro within
      simpa using fun present => copied ⟨within, present⟩
    rw [same] at there
    rcases begun.item?_cases there with stored | ⟨-, directory, passed⟩
    · refine .inr (.inl ⟨?_, stored⟩)
      by_contra present
      obtain ⟨other, found⟩ := Option.ne_none_iff_exists'.mp present
      exact copied ⟨within_of_item? tree found, by rw [begun.item? found]; rfl⟩
    · exact .inr (.inr ⟨directory, .inr passed⟩)

/-- A copy that is finished has met no file in the place of a directory. -/
theorem fits (tree : files.IsTree) (passable : files.Passable target) :
    Fits files origin target := by
  refine ⟨passable, ?_, ?_⟩
  · intro names content stored way
    have copied := merged.copied (within_of_item? tree stored)
      (begun.item? stored)
    rw [merged.keeps.directory (begun.directory_iff_onWay.mpr way)] at copied
    cases copied
  · intro names content within stored way
    have copied := merged.copied within (begun.directory_iff_onWay.mpr way)
    obtain ⟨latest, there⟩ := merged.keeps.file (begun.item? stored)
    rw [copied] at there
    cases there

/-- What a finished copy has merged into the goal. -/
theorem copiedTree (tree : files.IsTree)
    (counted : count = countFiles files origin) :
    CopiedTree files origin target count after := by
  have placed : ∀ {names item}, files.item? (origin ++ names) = some item →
      after.item? (lexicalLocation files target ++ names) = some item :=
    fun stored =>
      merged.copied (within_of_item? tree stored) (begun.item? stored)
  constructor
  · exact (begun.leads.keeps merged.keeps).locate
  · exact counted
  · intro names content
    exact placed
  · intro names
    exact placed
  · intro names item
    exact begun.kept_of_merged merged
  · intro names item
    exact begun.only_of_merged merged tree
  · intro place outside
    rw [merged.outside outside]
    by_cases same : opened.item? place = files.item? place
    · exact .inl same
    · exact .inr (begun.along.made same)

end

end Begun

section

variable (located : files.locate source = .ok origin)
  (entered : files.item? origin = some .directory)
include located entered

theorem made_of_copyTree
    (ran : copyTree source target files = (.ok count, after)) :
    ∃ opened, makeDirectories (target.join (.ofNames [])) files =
      (.ok (), opened) := by
  rw [copyTree, get_bind_eq, located] at ran
  simp only at ran
  rw [copyPlace, copyItem, get_bind_eq] at ran
  simp only [List.append_nil, entered] at ran
  obtain ⟨_, opened, made, -⟩ := bind_succeeded ran
  exact ⟨opened, orElseFail_succeeded made⟩

theorem clearTo_of_copyTree (tree : files.IsTree)
    (ran : copyTree source target files = (.ok count, after)) :
    files.ClearTo target := by
  obtain ⟨opened, made⟩ := made_of_copyTree located entered ran
  exact clearTo_join_nil_iff.mp (clearTo_of_makeDirectories tree made)

variable (tree : files.IsTree) (ordered : files.InWalkOrder)
  (apart : Build.Separate (lexicalLocation files target) origin)
include tree ordered apart

/-- Once the directory at the goal is open, the tree is merged into it. -/
theorem copyTree_of_made
    (made : makeDirectories (target.join (.ofNames [])) files =
      (.ok (), opened)) :
    (∃ count after, copyTree source target files = (.ok count, after) ∧
      Merged opened origin (lexicalLocation files target)
        (Within files origin) after ∧
      count = countFiles files origin) ∨
    Clash opened origin (lexicalLocation files target)
        (Within files origin) ∧
      ∃ error after, copyTree source target files = (.error error, after) := by
  have begun : Begun files origin target opened :=
    begun_of_makeDirectories tree made
  have merged := Merged.start begun.grown.tree (begun.along.ordered ordered)
    (begun.item? entered) begun.leads.directory
  have each : ∀ child ∈ files.children origin,
      Copies opened origin (lexicalLocation files target) [] child
        (copyPlace origin target
          (files.items.length + target.components.length) ([] ++ [child])) := by
    intro child listed
    obtain ⟨item, stored⟩ :=
      Option.isSome_iff_exists.mp (mem_children_iff.mp listed)
    apply copies_copyPlace begun.grown.tree begun.leads apart _
      (begun.item? stored)
    have bound := begun.grown.count
    rw [Path.components_join_nil] at bound
    rw [List.nil_append, List.length_singleton]
    omega
  have started : copyTree source target files =
      ((files.children origin).foldlM (fun count child => do
        let copied ← copyPlace origin target
          (files.items.length + target.components.length) ([] ++ [child])
        pure (count + copied)) 0 : FileAction SiteError Nat) opened := by
    rw [copyTree, get_bind_eq, located]
    simp only
    rw [copyPlace, copyItem, get_bind_eq]
    simp only [List.append_nil, entered]
    rw [bind_of_succeeded (orElseFail_of_succeeded made)]
  rw [started]
  rcases merged.children rfl 0 (ordered.nodup_children origin) each with
    ⟨total, after, copied, final, counted⟩ | ⟨clash, failed⟩
  · refine .inl ⟨total, after, ?_, final, begun.counted tree ordered counted⟩
    rw [copied, Nat.zero_add]
  · exact .inr ⟨clash.mono fun _ => .inr, failed⟩

theorem merged_of_copyTree
    (ran : copyTree source target files = (.ok count, after)) :
    ∃ opened, Begun files origin target opened ∧
      Merged opened origin (lexicalLocation files target)
        (Within files origin) after ∧
      count = countFiles files origin := by
  obtain ⟨opened, made⟩ := made_of_copyTree located entered ran
  rcases copyTree_of_made located entered tree ordered apart made with
    ⟨total, final, copied, merged, counted⟩ | ⟨-, error, stopped, failed⟩
  · cases ran.symm.trans copied
    exact ⟨opened, begun_of_makeDirectories tree made, merged, counted⟩
  · cases ran.symm.trans failed

/-- A copy that succeeds has copied the tree and counted its files, has touched
nothing else, and the tree has fitted.  And it does succeed if the tree fits, if
the system takes all the paths, and if the directory is there when the path ends
in a `.`. -/
theorem copyTree_outcome :
    (∀ count after, copyTree source target files = (.ok count, after) →
      CopiedTree files origin target count after ∧
        Fits files origin target) ∧
    (files.acceptsBelow source origin = true →
      files.acceptsBelow target origin = true → files.EndsOpen target →
        Fits files origin target →
          ∃ count after,
            copyTree source target files = (.ok count, after)) := by
  refine ⟨?_, ?_⟩
  · intro count after ran
    obtain ⟨opened, begun, merged, counted⟩ :=
      merged_of_copyTree located entered tree ordered apart ran
    have clear := clearTo_of_copyTree located entered tree ran
    exact ⟨begun.copiedTree merged tree counted,
      begun.fits merged tree clear.toPassable⟩
  · intro _ _ ending fits
    have clear : files.ClearTo target := ⟨fits.passable, ending⟩
    obtain ⟨opened, made⟩ :=
      (clearTo_join_nil_iff.mpr clear).makeDirectories tree
    have begun : Begun files origin target opened :=
      begun_of_makeDirectories tree made
    rcases copyTree_of_made located entered tree ordered apart made with
      ⟨count, after, copied, -⟩ | ⟨clash, -⟩
    · exact ⟨count, after, copied⟩
    · exact absurd clash (begun.not_clash fits)

end

/-! ## Copies of two files -/

/-- Two files, one of them in the place of an older one. -/
def assetFiles : FileSystem where
  items :=
    [(["from"], .directory), (["from", "a"], .directory),
     (["from", "a", "b.txt"], .file (.text "new")),
     (["from", "x.txt"], .file (.text "new")), (["out"], .directory),
     (["out", "keep.txt"], .file (.text "old")),
     (["out", "x.txt"], .file (.text "old"))]

theorem isTree_assetFiles : assetFiles.IsTree := by
  apply isTree_of_items rfl
  decide +kernel

theorem locate_assetFiles : assetFiles.locate ⟨"from"⟩ = .ok ["from"] :=
  Outcome.eq_ok_of_toOption (by decide +kernel)

theorem lexicalLocation_assetFiles :
    lexicalLocation assetFiles ⟨"out"⟩ = ["out"] := by
  decide +kernel

theorem components_out : (⟨"out"⟩ : Path).components = [.name "out"] := by
  decide

/-- The path passes the root and leads to the directory. -/
theorem passes_assetFiles {place : Location}
    (passed : assetFiles.Passes ⟨"out"⟩ place) :
    assetFiles.item? place = some .directory := by
  obtain ⟨passed, listed, rfl⟩ := passed
  rw [components_out, ← List.nil_append [_]] at listed
  rcases List.prefix_concat_iff.mp listed with rfl | none
  · decide +kernel
  · rw [List.prefix_nil.mp none]
    rfl

theorem fits_assetFiles : Fits assetFiles ["from"] ⟨"out"⟩ := by
  have onWay : ∀ {place}, assetFiles.item? place ≠ some .directory →
      ¬ OnWay assetFiles ⟨"out"⟩ place := by
    rintro place other (directory | passed)
    · exact other directory
    · exact other (passes_assetFiles passed)
  refine ⟨⟨?_, ?_⟩, ?_, ?_⟩
  · intro name listed
    rw [components_out, List.mem_singleton] at listed
    cases listed
    decide
  · intro place content passed
    rw [passes_assetFiles passed]
    simp
  · intro names content stored
    have listed := mem_items_of_item? stored (by simp)
    have either : names = ["a", "b.txt"] ∨ names = ["x.txt"] := by
      simp [assetFiles] at listed
      tauto
    rw [lexicalLocation_assetFiles]
    rcases either with rfl | rfl
    · exact onWay (by decide +kernel)
    · exact onWay (by decide +kernel)
  · intro names content _ stored
    rw [lexicalLocation_assetFiles] at stored
    have listed := mem_items_of_item? stored (by simp)
    have either : names = ["keep.txt"] ∨ names = ["x.txt"] := by
      simp [assetFiles] at listed
      tauto
    rcases either with rfl | rfl
    · exact onWay (by decide +kernel)
    · exact onWay (by decide +kernel)

theorem endsOpen_assetFiles : assetFiles.EndsOpen ⟨"out"⟩ := by
  intro name last
  exact absurd last (by decide +kernel)

theorem separate_assetFiles :
    Build.Separate (lexicalLocation assetFiles ⟨"out"⟩) ["from"] := by
  rw [lexicalLocation_assetFiles]
  exact ⟨by decide, by decide⟩

theorem copyTree_outcome_assetFiles :
    assetFiles.IsTree ∧ assetFiles.InWalkOrder ∧
      assetFiles.locate ⟨"from"⟩ = .ok ["from"] ∧
      assetFiles.item? ["from"] = some .directory ∧
      Build.Separate (lexicalLocation assetFiles ⟨"out"⟩) ["from"] ∧
      assetFiles.acceptsBelow ⟨"from"⟩ ["from"] = true ∧
      assetFiles.acceptsBelow ⟨"out"⟩ ["from"] = true ∧
      assetFiles.EndsOpen ⟨"out"⟩ ∧ Fits assetFiles ["from"] ⟨"out"⟩ ∧
      ∃ after, copyTree ⟨"from"⟩ ⟨"out"⟩ assetFiles = (.ok 2, after) ∧
        after.item? ["out", "a", "b.txt"] = some (.file (.text "new")) ∧
        after.item? ["out", "x.txt"] = some (.file (.text "new")) ∧
        after.item? ["out", "keep.txt"] = some (.file (.text "old")) := by
  have ordered : assetFiles.InWalkOrder := by
    decide +kernel
  have read : assetFiles.acceptsBelow ⟨"from"⟩ ["from"] = true := by
    decide +kernel
  have written : assetFiles.acceptsBelow ⟨"out"⟩ ["from"] = true := by
    decide +kernel
  refine ⟨isTree_assetFiles, ordered, locate_assetFiles, rfl,
    separate_assetFiles, read, written, endsOpen_assetFiles, fits_assetFiles,
    ?_⟩
  obtain ⟨copies, succeeds⟩ := copyTree_outcome locate_assetFiles rfl
    isTree_assetFiles ordered separate_assetFiles
  obtain ⟨count, after, ran⟩ :=
    succeeds read written endsOpen_assetFiles fits_assetFiles
  obtain ⟨copied, -⟩ := copies count after ran
  have file := copied.file
  have kept := copied.kept ["keep.txt"]
  rw [lexicalLocation_assetFiles] at file kept
  obtain rfl : count = 2 := copied.counted.trans (by decide +kernel)
  refine ⟨after, ran, ?_, ?_, ?_⟩
  · exact file ["a", "b.txt"] _ (by decide +kernel)
  · exact file ["x.txt"] _ (by decide +kernel)
  · exact kept _ (by decide +kernel) (by decide +kernel)

/-! ## Copies that fail -/

/-- The directory and all above it are absent or directories, and no place is a
file on one side and a directory on the other. -/
structure Admits (files : FileSystem) (origin : Location) (target : Path) :
    Prop where
  way : ∀ above, above <+: lexicalLocation files target →
    ∀ content, files.item? above ≠ some (.file content)
  fits : ∀ names one other, files.item? (origin ++ names) = some one →
    files.item? (lexicalLocation files target ++ names) = some other →
      one.kind = other.kind

def singleFiles : FileSystem where
  items := [(["from"], .directory), (["from", "x"], .file (.text "new"))]

theorem isTree_singleFiles : singleFiles.IsTree := by
  apply isTree_of_items rfl
  decide +kernel

theorem locate_singleFiles : singleFiles.locate ⟨"from"⟩ = .ok ["from"] :=
  Outcome.eq_ok_of_toOption (by decide +kernel)

/-- Where nothing is, everything can be copied to. -/
theorem admits_singleFiles {target : Path} {name : String}
    {names : List String}
    (leads : lexicalLocation singleFiles target = name :: names)
    (other : name ≠ "from") :
    Admits singleFiles ["from"] target ∧
      Build.Separate (lexicalLocation singleFiles target) ["from"] := by
  have absent : ∀ below item,
      singleFiles.item? (name :: below) ≠ some item := by
    intro below item stored
    have listed := mem_items_of_item? stored (List.cons_ne_nil name below)
    simp [singleFiles, other] at listed
  rw [Build.Separate, leads]
  refine ⟨⟨?_, ?_⟩, ?_, ?_⟩
  · intro above listed content
    rw [leads] at listed
    rcases List.prefix_cons_iff.mp listed with rfl | ⟨below, rfl, -⟩
    · rw [item?_root]
      simp
    · exact absent below _
  · intro below one item _ there
    rw [leads] at there
    exact absurd there (absent _ item)
  · simp [other]
  · simp [other.symm]

def longName : String := String.ofList (List.replicate 256 'a')

theorem isFileName_replicate {count : Nat} (long : 2 < count) :
    Path.IsFileName (String.ofList (List.replicate count 'a')) := by
  have longer : ∀ part : List Char, part.length ≤ 2 →
      List.replicate count 'a' ≠ part := by
    rintro part short rfl
    rw [List.length_replicate] at short
    omega
  constructor
  · rw [String.toList_ofList]
    intro listed
    exact absurd (List.eq_of_mem_replicate listed) (by decide)
  · rw [String.toList_ofList, Path.step?, if_neg (longer _ (by decide)),
      if_neg (longer _ (by decide)), if_neg (longer _ (by decide))]

theorem isFileName_longName : ∀ name ∈ [longName], Path.IsFileName name :=
  List.forall_mem_singleton.mpr (isFileName_replicate (by decide))

/-- A path with a name that no file can have. -/
def longPath : Path := (⟨"out"⟩ : Path).join (.ofNames [longName])

theorem copyTree_longPath :
    (copyTree ⟨"from"⟩ longPath singleFiles).1.toOption = none := by
  rcases ran : copyTree ⟨"from"⟩ longPath singleFiles with
    ⟨error | count, after⟩
  · rfl
  · have short := (clearTo_of_copyTree locate_singleFiles rfl
      isTree_singleFiles ran).short longName
    rw [longPath, Path.components_join_ofNames isFileName_longName] at short
    have long : isNameTooLong longName = true := by decide +kernel
    rw [short (by simp)] at long
    cases long

/-- A directory that is passed and left again, and a name that is too long, each
keep a tree from being copied. -/
theorem copyTree_fails_singleFiles :
    singleFiles.IsTree ∧ singleFiles.InWalkOrder ∧
      singleFiles.locate ⟨"from"⟩ = .ok ["from"] ∧
      singleFiles.item? ["from"] = some .directory ∧
      ∀ target ∈ [⟨"out/x/.."⟩, longPath],
        (Admits singleFiles ["from"] target ∧
          Build.Separate (lexicalLocation singleFiles target) ["from"]) ∧
        (copyTree ⟨"from"⟩ target singleFiles).1.toOption = none := by
  refine ⟨isTree_singleFiles, by decide +kernel, locate_singleFiles, rfl, ?_⟩
  have detoured : lexicalLocation singleFiles ⟨"out/x/.."⟩ = ["out"] := by
    decide +kernel
  have long : lexicalLocation singleFiles longPath = ["out", longName] := by
    rw [longPath, lexicalLocation_join_ofNames _ isFileName_longName]
    rfl
  simp only [List.forall_mem_cons]
  refine ⟨⟨admits_singleFiles detoured (by decide), ?_⟩,
    ⟨admits_singleFiles long (by decide), copyTree_longPath⟩,
    List.forall_mem_nil _⟩
  decide +kernel

end Assets

end WorkbookSite

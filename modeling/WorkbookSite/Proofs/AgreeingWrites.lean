import WorkbookSite.Proofs.MaintainedWrites
import WorkbookSite.Proofs.RenderedDocuments
import WorkbookSite.Proofs.ReopenedDirectories

/-!
# Writes that agree

Two actions agree if they leave the same files and either both fail or give the
same.  Copies, documents and the sitemap agree when they are written below two
paths that lead to the same directory: only the messages of their failures name
the paths.
-/

namespace WorkbookSite

open FileSystem CleanGuard FileAction

namespace FileAction

variable {ε α β : Type} {files : FileSystem}
  {invariant : FileSystem → Prop}

theorem bind_eq_of_eq {first second : FileAction ε α}
    {next : α → FileAction ε β} (same : first files = second files) :
    (first >>= next) files = (second >>= next) files := by
  simp only [bind, ExceptT.bind, ExceptT.mk, ExceptT.bindCont, StateT.bind,
    same]

/-- Both runs leave the same files, where the invariant holds, and both fail or
both give the same. -/
structure Alike (invariant : FileSystem → Prop)
    (one other : Except ε α × FileSystem) : Prop where
  after : one.2 = other.2
  result : one.1.toOption = other.1.toOption
  kept : invariant one.2

/-- Run on the same files, where the invariant holds, the actions do alike. -/
def Agree (invariant : FileSystem → Prop) (first second : FileAction ε α) :
    Prop :=
  ∀ ⦃files⦄, invariant files →
    Alike invariant (first files) (second files)

theorem Alike.mono {weaker : FileSystem → Prop}
    {one other : Except ε α × FileSystem} (alike : Alike invariant one other)
    (holds : ∀ after, invariant after → weaker after) :
    Alike weaker one other :=
  ⟨alike.after, alike.result, holds _ alike.kept⟩

theorem Alike.bind {first second : FileAction ε α}
    {next other : α → FileAction ε β}
    (start : Alike invariant (first files) (second files))
    (rest : ∀ value, Agree invariant (next value) (other value)) :
    Alike invariant ((first >>= next) files) ((second >>= other) files) := by
  rcases one : first files with ⟨reading, left⟩
  rcases two : second files with ⟨reading', left'⟩
  rw [one, two] at start
  obtain ⟨rfl, result, kept⟩ := start
  cases reading with
  | ok value =>
      cases reading' with
      | ok value' =>
          obtain rfl : value = value' := Option.some.inj result
          rw [bind_of_succeeded one, bind_of_succeeded two]
          exact rest value kept
      | error error => cases result
  | error error =>
      cases reading' with
      | ok value => cases result
      | error error' =>
          rw [bind_of_failed one, bind_of_failed two]
          exact ⟨rfl, rfl, kept⟩

namespace Agree

theorem of_eq {first second : FileAction ε α} {fault : ε → Prop}
    (maintained : Maintains invariant fault first)
    (same : ∀ files, invariant files → first files = second files) :
    Agree invariant first second := by
  intro files holds
  rw [← same files holds]
  exact ⟨rfl, rfl, (maintained holds (Prod.eta _).symm).1⟩

theorem pure (value : α) :
    Agree invariant (Pure.pure value : FileAction ε α) (Pure.pure value) :=
  fun _ holds => ⟨rfl, rfl, holds⟩

theorem bind {first second : FileAction ε α}
    {next other : α → FileAction ε β} (start : Agree invariant first second)
    (rest : ∀ value, Agree invariant (next value) (other value)) :
    Agree invariant (first >>= next) (second >>= other) :=
  fun _ holds => (start holds).bind rest

theorem orElseFail {first second : FileAction Refusal α} {error other : ε}
    (inner : Agree invariant first second) :
    Agree invariant (first.orElseFail error) (second.orElseFail other) := by
  intro files holds
  have unnamed : ∀ (action : FileAction Refusal α) (error : ε),
      ((action.orElseFail error) files).1.toOption =
        (action files).1.toOption := by
    intro action error
    rw [orElseFail_eq]
    cases (action files).1 <;> rfl
  obtain ⟨after, result, kept⟩ := inner holds
  exact ⟨after, (unnamed first error).trans
    (result.trans (unnamed second other).symm), kept⟩

theorem foldlM {items : List α} {body other : β → α → FileAction ε β}
    {total : β}
    (each : ∀ total, ∀ item ∈ items,
      Agree invariant (body total item) (other total item)) :
    Agree invariant (items.foldlM body total) (items.foldlM other total) := by
  induction items generalizing total with
  | nil => exact .pure total
  | cons item items induction =>
      rw [List.foldlM_cons, List.foldlM_cons]
      apply Agree.bind (each total item List.mem_cons_self)
      intro next
      exact induction fun total other listed =>
        each total other (List.mem_cons_of_mem _ listed)

theorem forM {items : List α} {body other : α → FileAction ε PUnit}
    (each : ∀ item ∈ items, Agree invariant (body item) (other item)) :
    Agree invariant (items.forM body) (items.forM other) := by
  induction items with
  | nil => exact .pure _
  | cons item items induction =>
      apply Agree.bind (each item List.mem_cons_self)
      intro _
      exact induction fun other listed =>
        each other (List.mem_cons_of_mem _ listed)

end Agree

end FileAction

namespace Build

variable {opened : FileSystem} {within : Location → Prop}
  {place : Location} {first second : Path} {names : List String}

/-- Directories and files were added at some places, and nothing was taken
away. -/
structure Steady (opened : FileSystem) (within : Location → Prop)
    (files : FileSystem) : Prop extends Keeps opened files where
  named : files.Named
  within : ∀ ⦃place⦄, (files.item? place).isSome = true → within place

namespace Steady

variable {files : FileSystem}

theorem put {location : Location} {name : String} {item : Item}
    (steady : Steady opened within files)
    (keeps : Keeps files (files.put (location ++ [name]) item))
    (proper : Path.IsFileName name) (allowed : within (location ++ [name])) :
    Steady opened within (files.put (location ++ [name]) item) := by
  refine ⟨steady.toKeeps.trans keeps, steady.named.put proper, ?_⟩
  intro other present
  rw [item?_put _ _ (by simp)] at present
  split at present
  · rename_i same
    rw [same]
    exact allowed
  · exact steady.within present

section

variable (proper : ∀ name ∈ names, Path.IsFileName name)
  (allowed : ∀ ⦃above⦄, above ≠ [] → above <+: names →
    within (place ++ above))
include proper allowed

theorem makeAlong : Maintains (Steady opened within) (fun _ => True)
    (makeAlong place (names.map .name)) := by
  apply maintains_makeAlong
  intro files passed name steady listed absent
  obtain ⟨later, spelled⟩ := listed
  obtain ⟨passing, rest, rfl, here, -⟩ :=
    List.map_eq_append_iff.mp spelled.symm
  obtain ⟨above, last, rfl, rfl, only⟩ := List.map_eq_append_iff.mp here
  obtain ⟨other, rfl, same⟩ := List.map_eq_singleton_iff.mp only
  cases same
  rw [resolve_names] at absent ⊢
  apply steady.put (.put_directory absent) (proper name (by simp))
  rw [List.append_assoc]
  exact allowed (by simp) (List.prefix_append ..)

variable (named : names ≠ []) (leads : opened.LeadsTo first place)
include named leads

theorem put_file ⦃files : FileSystem⦄ ⦃location : Location⦄
    ⦃content : Content⦄ (steady : Steady opened within files)
    (here : location = lexicalLocation files (first.join (.ofNames names)))
    (noDirectory : files.isDirectoryAt location = false) :
    Steady opened within (files.put location (.file content)) := by
  obtain ⟨above, name, rfl⟩ : ∃ above name, names = above ++ [name] :=
    ⟨_, _, (List.dropLast_concat_getLast named).symm⟩
  have itself := allowed named List.prefix_rfl
  rw [lexicalLocation_join_ofNames files proper,
    (leads.keeps steady.toKeeps).location, ← List.append_assoc] at here
  rw [← List.append_assoc] at itself
  subst here
  exact steady.put (.put_file content (by simp) noDirectory)
    (proper name (by simp)) itself

end

end Steady

section

variable (one : opened.LeadsTo first place) (two : opened.LeadsTo second place)
  (proper : ∀ name ∈ names, Path.IsFileName name)
  (allowed : ∀ ⦃above⦄, above ≠ [] → above <+: names →
    within (place ++ above))
include one two proper allowed

theorem agree_makeDirectories :
    Agree (Steady opened within)
      (makeDirectories (first.join (.ofNames names)))
      (makeDirectories (second.join (.ofNames names))) := by
  by_cases named : names = []
  · subst named
    intro files steady
    have same := (one.keeps steady.toKeeps).join_nil.makeDirectories
    have other := (two.keeps steady.toKeeps).join_nil.makeDirectories
    rw [same, other]
    exact ⟨rfl, rfl, steady⟩
  · intro files steady
    rw [(one.keeps steady.toKeeps).makeDirectories_below named proper,
      (two.keeps steady.toKeeps).makeDirectories_below named proper]
    exact Agree.of_eq (Steady.makeAlong proper allowed) (fun _ _ => rfl) steady

variable (named : names ≠ [])
include named

theorem agree_makeParents :
    Agree (Steady opened within)
      (makeParents (first.join (.ofNames names)))
      (makeParents (second.join (.ofNames names))) := by
  intro files steady
  rw [(one.keeps steady.toKeeps).makeParents_below named proper,
    (two.keeps steady.toKeeps).makeParents_below named proper]
  have properAbove : ∀ name ∈ names.dropLast, Path.IsFileName name :=
    fun name listed => proper name ((List.dropLast_prefix _).subset listed)
  have allowedAbove : ∀ ⦃above⦄, above ≠ [] → above <+: names.dropLast →
      within (place ++ above) :=
    fun above inside listed =>
      allowed inside (listed.trans (List.dropLast_prefix _))
  exact Agree.of_eq (Steady.makeAlong properAbove allowedAbove)
    (fun _ _ => rfl) steady

theorem agree_writeFile (content : Content) :
    Agree (Steady opened within)
      (writeFile (first.join (.ofNames names)) content)
      (writeFile (second.join (.ofNames names)) content) := by
  apply Agree.of_eq (maintains_writeFile fun _ _ steady =>
    Steady.put_file proper allowed named one steady)
  intro files steady
  exact (one.keeps steady.toKeeps).writeFile_below named proper
    (two.keeps steady.toKeeps) content

theorem agree_copyFile (source : Location) (content : Content) :
    Agree (Steady opened within)
      (copyFile source content (first.join (.ofNames names)))
      (copyFile source content (second.join (.ofNames names))) := by
  apply Agree.of_eq (maintains_copyFile
    (Steady.put_file proper allowed named one))
  intro files steady
  exact bind_eq_of_eq ((one.keeps steady.toKeeps).writeFile_below named proper
    (two.keeps steady.toKeeps) content)

end

/-! ## Assets -/

/-- The places that are no deeper below the assets than the given depth. -/
def NoDeeper (source : Location) (depth : Nat) (location : Location) : Prop :=
  ∀ names, location = source ++ names → names.length ≤ depth

/-- Unless the copies go into the directory of the assets, the copy of an asset
is no deeper than the asset. -/
theorem noDeeper_copy {source : Location} {depth : Nat}
    (outside : source <+: place → source = place)
    (short : names.length ≤ depth) {above : List String}
    (listed : above <+: names) : NoDeeper source depth (place ++ above) := by
  intro others same
  have fewer := listed.length_le
  have lengths := congrArg List.length same
  rw [List.length_append, List.length_append] at lengths
  have longer : source.length ≥ place.length := by
    rcases List.prefix_or_prefix_of_prefix
      (List.prefix_append place above) (same ▸ List.prefix_append source others)
      with higher | lower
    · exact higher.length_le
    · exact Nat.le_of_eq (congrArg List.length (outside lower).symm)
  omega

/-- Two copies do alike if they have the same number of levels, or if both
have more than the assets below the names and their copies. -/
inductive LevelsAgree (source place : Location) (within : Location → Prop)
    (names : List String) (levels others : Nat) : Prop where
  | same (equal : levels = others) (everywhere : ∀ location, within location)
  | enough {depth : Nat} (limited : within = NoDeeper source depth)
      (outside : source <+: place → source = place)
      (short : names.length ≤ depth) (here : depth < names.length + levels)
      (there : depth < names.length + others)

namespace LevelsAgree

variable {source : Location} {levels others : Nat}

theorem allowed (agree : LevelsAgree source place within names levels others)
    ⦃above : List String⦄ (listed : above <+: names) :
    within (place ++ above) := by
  cases agree with
  | same equal everywhere => exact everywhere _
  | enough limited outside short here there =>
      rw [limited]
      exact noDeeper_copy outside short listed

theorem child {name : String}
    (agree : LevelsAgree source place within names (levels + 1) (others + 1))
    (present : within (source ++ (names ++ [name]))) :
    LevelsAgree source place within (names ++ [name]) levels others := by
  cases agree with
  | same equal everywhere => exact .same (Nat.succ.inj equal) everywhere
  | enough limited outside short here there =>
      rw [limited] at present
      have deeper := present _ rfl
      apply enough limited outside deeper
      · rw [List.length_append, List.length_singleton]
        omega
      · rw [List.length_append, List.length_singleton]
        omega

end LevelsAgree

section

variable {source : Location} (one : opened.LeadsTo first place)
  (two : opened.LeadsTo second place)
include one two

/-- Copies below two paths to the same directory agree. -/
theorem agree_copyPlace {levels others : Nat}
    (agree : LevelsAgree source place within names levels others)
    (named : names ≠ []) (proper : ∀ name ∈ names, Path.IsFileName name) :
    Agree (Steady opened within)
      (Assets.copyPlace source first levels names)
      (Assets.copyPlace source second others names) := by
  induction levels generalizing others names with
  | zero =>
      cases agree with
      | same equal everywhere =>
          subst equal
          exact fun _ steady => ⟨rfl, rfl, steady⟩
      | enough limited outside short here there => omega
  | succ levels induction =>
      cases others with
      | zero =>
          cases agree with
          | same equal everywhere => cases equal
          | enough limited outside short here there => omega
      | succ others =>
          have allowed : ∀ ⦃above⦄, above ≠ [] → above <+: names →
              within (place ++ above) := fun _ _ listed => agree.allowed listed
          intro files steady
          rw [Assets.copyPlace, Assets.copyPlace, Assets.copyItem,
            Assets.copyItem, get_bind_eq, get_bind_eq]
          cases stored : files.item? (source ++ names) with
          | none => exact Agree.pure 0 steady
          | some item =>
              cases item with
              | file content =>
                  apply Alike.bind (Agree.orElseFail (agree_copyFile one two
                    proper allowed named _ content) steady)
                  intro _
                  exact .pure 1
              | directory =>
                  apply Alike.bind (Agree.orElseFail
                    (agree_makeDirectories one two proper allowed) steady)
                  intro _
                  apply Agree.foldlM
                  intro total child listed
                  have present := mem_children_iff.mp listed
                  obtain ⟨item, found⟩ := Option.isSome_iff_exists.mp present
                  rw [List.append_assoc] at present
                  have properInside : ∀ name ∈ names ++ [child],
                      Path.IsFileName name := by
                    simpa [or_imp, forall_and] using
                      ⟨proper, steady.named found⟩
                  apply Agree.bind (induction
                    (agree.child (steady.within present)) (by simp)
                    properInside)
                  intro copied
                  exact .pure _

end

/-! ## Documents and the sitemap -/

section

variable (one : opened.LeadsTo first place) (two : opened.LeadsTo second place)
  (everywhere : ∀ location, within location)
include one two everywhere

theorem agree_writeDocument {document : RenderedDocument}
    (inner : Path.innerNames? ⟨document.path⟩ = some document.names) :
    Agree (Steady opened within) (writeDocument first document)
      (writeDocument second document) := by
  obtain ⟨named, proper⟩ := Path.isFileName_of_innerNames? inner
  have allowed : ∀ ⦃above⦄, above ≠ [] → above <+: document.names →
      within (place ++ above) := fun _ _ _ => everywhere _
  apply Agree.bind
  · exact (agree_makeParents one two proper allowed named).orElseFail
  · intro _
    apply Agree.bind
    · exact (agree_writeFile one two proper allowed named _).orElseFail
    · intro _
      exact .pure ()

theorem agree_writeSitemap (base : String)
    (documents : List RenderedDocument) :
    Agree (Steady opened within) (writeSitemap base first documents)
      (writeSitemap base second documents) := by
  have name : (⟨"sitemap.xml"⟩ : Path) = .ofNames ["sitemap.xml"] := by decide
  have allowed : ∀ ⦃above⦄, above ≠ [] → above <+: ["sitemap.xml"] →
      within (place ++ above) := fun _ _ _ => everywhere _
  rw [writeSitemap, writeSitemap, name]
  apply Agree.bind
  · exact (agree_writeFile one two (by decide) allowed (by simp) _).orElseFail
  · intro _
    exact .pure ()

end

/-- Making the output directory, asked for in either way, leaves the opened
files, and its path leads to the place. -/
structure Reopens (files : FileSystem) (output : Path) (opened : FileSystem)
    (place : Location) : Prop where
  made : makeDirectories output files = (.ok (), opened)
  again : makeDirectories (output.join (.ofNames [])) files = (.ok (), opened)
  location : lexicalLocation files output = place

theorem Reopens.leads {files : FileSystem} {output : Path}
    (reopens : Reopens files output opened place) (tree : files.IsTree) :
    opened.LeadsTo output place := by
  have grown := opened_of_makeDirectories tree reopens.made
  rw [← reopens.location, ← grown.keeps.lexicalLocation]
  exact grown.way.leadsTo grown.tree

variable {files : FileSystem} {source : Location}

/-! ## All that is written -/

/-- A copy makes the output directory, and then copies what is in the tree. -/
theorem copyPlace_of_reopens (reopens : Reopens files first opened place)
    (directory : files.item? source = some .directory) (levels : Nat) :
    Assets.copyPlace source first (levels + 1) [] files =
      ((files.children source).foldlM (fun count child => do
        let copied ← Assets.copyPlace source first levels ([] ++ [child])
        pure (count + copied)) 0 : FileAction SiteError Nat) opened := by
  rw [Assets.copyPlace, Assets.copyItem, get_bind_eq, List.append_nil]
  simp only [directory]
  exact bind_of_succeeded (orElseFail_of_succeeded reopens.again)

theorem alike_copyPlace {levels others : Nat} (tree : files.IsTree)
    (one : Reopens files first opened place)
    (two : Reopens files second opened place)
    (directory : files.item? source = some .directory)
    (start : Steady opened within opened)
    (agree : ∀ name, within (source ++ [name]) →
      LevelsAgree source place within [name] levels others) :
    Alike (Steady opened within)
      (Assets.copyPlace source first (levels + 1) [] files)
      (Assets.copyPlace source second (others + 1) [] files) := by
  have grown := opened_of_makeDirectories tree one.made
  rw [copyPlace_of_reopens one directory, copyPlace_of_reopens two directory]
  refine Agree.foldlM ?_ start
  intro total child listed
  have present := grown.keeps.isSome (mem_children_iff.mp listed)
  obtain ⟨item, stored⟩ := Option.isSome_iff_exists.mp present
  apply Agree.bind (agree_copyPlace (one.leads tree) (two.leads tree)
    (agree child (start.within present)) (List.cons_ne_nil child [])
    (by simpa using grown.tree.named stored))
  intro copied
  exact .pure _

/-- The copy of a tree comes to an end: if it had more levels, it would not do
anything else. -/
def CopyEnds (files : FileSystem) (source : Location) (target : Path) : Prop :=
  ∀ ⦃levels⦄, files.items.length + target.components.length ≤ levels →
    Alike (fun _ => True) (Assets.copyPlace source target (levels + 1) [] files)
      (Assets.copyPlace source target
        (files.items.length + target.components.length + 1) [] files)

/-- Only a copy into its own tree can go on and on. -/
theorem copyEnds_of_outside (tree : files.IsTree)
    (reopens : Reopens files first opened place)
    (directory : files.item? source = some .directory)
    (outside : source <+: place → source = place) :
    CopyEnds files source first := by
  have grown := opened_of_makeDirectories tree reopens.made
  have start : Steady opened (NoDeeper source opened.items.length) opened := by
    refine ⟨.refl opened, grown.tree.named, ?_⟩
    rintro _ present names rfl
    obtain ⟨item, stored⟩ := Option.isSome_iff_exists.mp present
    have bound := grown.tree.length_le stored
    rw [List.length_append] at bound
    omega
  intro levels more
  have fewer := grown.count
  apply Alike.mono (alike_copyPlace tree reopens reopens directory start ?_)
    fun _ _ => trivial
  intro name present
  apply LevelsAgree.enough rfl outside (present _ rfl)
  · rw [List.length_singleton]
    omega
  · rw [List.length_singleton]
    omega

theorem writeAssets_of_directory {static : Path}
    (located : files.locate static = .ok source)
    (directory : files.item? source = some .directory) :
    writeAssets static first files = Assets.copyPlace source first
      (files.items.length + first.components.length + 1) [] files := by
  have present : files.isDirectory static = true := by
    simp [isDirectory, find?, located, directory]
  rw [writeAssets, get_bind_eq, if_pos present, Assets.copyTree, get_bind_eq]
  simp only [located]

theorem writeAssets_of_absent {static : Path}
    (reopens : Reopens files first opened place)
    (located : files.locate static = .ok source)
    (absent : files.item? source ≠ some .directory) :
    writeAssets static first files = (.ok 0, opened) := by
  have missing : files.isDirectory static ≠ true := by
    simpa [isDirectory, find?, located] using absent
  rw [writeAssets, get_bind_eq, if_neg missing,
    bind_of_succeeded (orElseFail_of_succeeded reopens.made)]
  rfl

/-- However two paths name the same output directory, the assets are copied
alike: with as many levels as the longer path allows, both copies are the
same. -/
theorem alike_writeAssets {static other : Path} (tree : files.IsTree)
    (one : Reopens files first opened place)
    (two : Reopens files second opened place)
    (located : files.locate static = .ok source)
    (same : files.locate other = .ok source)
    (ends : CopyEnds files source first)
    (finishes : CopyEnds files source second) :
    Alike (Steady opened (fun _ => True)) (writeAssets static first files)
      (writeAssets other second files) := by
  have grown := opened_of_makeDirectories tree one.made
  have start : Steady opened (fun _ => True) opened :=
    ⟨.refl opened, grown.tree.named, fun _ _ => trivial⟩
  by_cases directory : files.item? source = some .directory
  · rw [writeAssets_of_directory located directory,
      writeAssets_of_directory same directory]
    have here := ends (Nat.le_max_left _
      (files.items.length + second.components.length))
    have there := finishes (Nat.le_max_right
      (files.items.length + first.components.length) _)
    have equal : ∀ levels, Alike (Steady opened (fun _ => True))
        (Assets.copyPlace source first (levels + 1) [] files)
        (Assets.copyPlace source second (levels + 1) [] files) :=
      fun levels => alike_copyPlace tree one two directory start
        fun name _ => .same rfl fun _ => trivial
    exact ⟨here.after.symm.trans ((equal _).after.trans there.after),
      here.result.symm.trans ((equal _).result.trans there.result),
      here.after ▸ (equal _).kept⟩
  · rw [writeAssets_of_absent one located directory,
      writeAssets_of_absent two same directory]
    exact ⟨rfl, rfl, start⟩

/-- What two builds write agrees if their output paths and their static paths
lead to the same places, and the copies of the assets come to an end. -/
theorem alike_writeContents {settings other : BuildSettings}
    {documents : List RenderedDocument} (tree : files.IsTree)
    (one : Reopens files settings.outputPath opened place)
    (two : Reopens files other.outputPath opened place)
    (located : files.locate settings.staticPath = .ok source)
    (same : files.locate other.staticPath = .ok source)
    (ends : CopyEnds files source settings.outputPath)
    (finishes : CopyEnds files source other.outputPath)
    (sitemap : other.sitemapBase = settings.sitemapBase)
    (inner : ∀ document ∈ documents,
      Path.innerNames? ⟨document.path⟩ = some document.names) :
    Alike (Steady opened (fun _ => True))
      (writeContents settings documents files)
      (writeContents other documents files) := by
  have leads := one.leads tree
  have others := two.leads tree
  apply Alike.bind (alike_writeAssets tree one two located same ends finishes)
  intro assets
  apply Agree.bind
  · apply Agree.forM
    intro document listed
    exact agree_writeDocument leads others (fun _ => trivial)
      (inner document listed)
  · intro _
    rw [sitemap]
    cases settings.sitemapBase with
    | none => exact .pure assets
    | some base =>
        apply Agree.bind
          (agree_writeSitemap leads others (fun _ => trivial) base documents)
        intro _
        exact .pure assets

end Build

end WorkbookSite

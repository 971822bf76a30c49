import WorkbookSite.Proofs.CleanBuild
import WorkbookSite.Proofs.LoadedWorkbooks
import WorkbookSite.Proofs.RespelledSites
import WorkbookSite.Proofs.WalkedFiles

/-!
# Discovered workbooks

A site is loaded from the workbooks below a directory.  They are those that a
walk finds which turns back at the excluded path: none is missed or found twice,
and they come in the order of their paths, each with one page for each of its
worksheets.  The first one that cannot be opened or read, or has a worksheet
that is no page, is the one that the error names.
-/

namespace WorkbookSite

namespace Site

open FileSystem

variable {files : FileSystem} {directory : Path} {location : Location}
  {exclude : Option Path} {names : List String} {content : Content}

/-- The file has the name of a workbook, and not that of a backup. -/
structure NamesWorkbook (directory : Path) (names : List String) : Prop where
  workbook : ∃ extension known,
    (placeBelow directory names).extension? = some extension ∧
      known ∈ workbookExtensions ∧
      extension.toList.map Char.toLower = known.toList
  noBackup : ∀ name, names.getLast? = some name → ¬ ['~'] <+: name.toList

/-- The file is a workbook below the directory, and nothing from the directory
down to it is the excluded path. -/
structure Discovered (files : FileSystem) (directory : Path)
    (location : Location) (exclude : Option Path) (names : List String)
    (content : Content) : Prop where
  stored : files.item? (location ++ names) = some (.file content)
  named : NamesWorkbook directory names
  included : ∀ excluded ∈ exclude, ∀ above, above <+: names →
    (placeBelow directory above).components ≠ excluded.components

theorem isWorkbookPath_iff {path : Path} :
    isWorkbookPath path = true ↔ ∃ extension known,
      path.extension? = some extension ∧ known ∈ workbookExtensions ∧
        extension.toList.map Char.toLower = known.toList := by
  rw [isWorkbookPath, Option.any_eq_true]
  constructor
  · rintro ⟨extension, found, listed⟩
    refine ⟨extension, _, found, List.contains_iff_mem.mp listed, ?_⟩
    rw [String.toList_ofList]
  · rintro ⟨extension, known, found, listed, same⟩
    refine ⟨extension, found, List.contains_iff_mem.mpr ?_⟩
    rw [same, String.ofList_toList]
    exact listed

theorem isBackupName_iff {name : String} :
    isBackupName name = true ↔ ['~'] <+: name.toList := by
  rw [isBackupName, beq_iff_eq]
  cases name.toList with
  | nil => simp
  | cons first others => simp [eq_comm]

theorem namesWorkbook_iff :
    NamesWorkbook directory names ↔
      isWorkbookPath (placeBelow directory names) = true ∧
        names.getLast?.any isBackupName = false := by
  have backup : names.getLast?.any isBackupName = false ↔
      ∀ name, names.getLast? = some name → ¬ ['~'] <+: name.toList := by
    rw [Option.any_eq_false]
    simp only [← Bool.not_eq_true, isBackupName_iff]
  rw [isWorkbookPath_iff, backup]
  exact ⟨fun named => ⟨named.workbook, named.noBackup⟩,
    fun named => ⟨named.1, named.2⟩⟩

/-! ## The walk of a discovery -/

/-- Whether a walk enters a place: it turns back at the excluded path. -/
def entersAt (directory : Path) (exclude : Option Path)
    (names : List String) : Bool :=
  exclude.all fun excluded =>
    (placeBelow directory names).components != excluded.components

/-- The workbook that a walk visits, unless it is a backup. -/
def workbookAt? (directory : Path) :
    List String × Item → Option (List String × Content)
  | (_, .directory) => none
  | (names, .file content) =>
      if isWorkbookPath (placeBelow directory names) &&
          !names.getLast?.any isBackupName then some (names, content)
      else none

theorem workbookAt?_eq_some_iff {item : Item} {others : List String} :
    workbookAt? directory (names, item) = some (others, content) ↔
      names = others ∧ item = .file content ∧
        NamesWorkbook directory names := by
  cases item with
  | directory => simp [workbookAt?]
  | file stored =>
      rw [workbookAt?, namesWorkbook_iff, Option.ite_none_right_eq_some,
        Bool.and_eq_true, Bool.not_eq_true', Option.some.injEq,
        Prod.mk.injEq, Item.file.injEq, and_comm, and_assoc]

/-- The workbooks that a walk below the directory finds. -/
def walkedWorkbooks (files : FileSystem) (directory : Path)
    (location : Location) (exclude : Option Path) :
    List (List String × Content) :=
  (files.walk location (entersAt directory exclude)).filterMap
    (workbookAt? directory)

theorem entersAt_iff :
    entersAt directory exclude names = true ↔ ∀ excluded ∈ exclude,
      (placeBelow directory names).components ≠ excluded.components := by
  rw [entersAt, Option.all_eq_true]
  simp only [bne_iff_ne]
  rfl

/-- A walk finds what there is to discover. -/
theorem mem_walkedWorkbooks_iff (tree : files.IsTree) :
    (names, content) ∈ walkedWorkbooks files directory location exclude ↔
      Discovered files directory location exclude names content := by
  rw [walkedWorkbooks, List.mem_filterMap]
  constructor
  · rintro ⟨⟨others, item⟩, visited, found⟩
    obtain ⟨rfl, rfl, named⟩ := workbookAt?_eq_some_iff.mp found
    obtain ⟨stored, entered⟩ := (mem_walk_iff tree).mp visited
    exact ⟨stored, named, fun excluded listed above up =>
      entersAt_iff.mp (entered above up) excluded listed⟩
  · rintro ⟨stored, named, included⟩
    refine ⟨(names, .file content), (mem_walk_iff tree).mpr ⟨stored, ?_⟩,
      workbookAt?_eq_some_iff.mpr ⟨rfl, rfl, named⟩⟩
    intro above up
    exact entersAt_iff.mpr fun excluded listed =>
      included excluded listed above up

theorem pairwise_filterMap_workbookAt? {visited : List (List String × Item)}
    (ordered : visited.Pairwise fun one other => one.1 < other.1) :
    (visited.filterMap (workbookAt? directory)).Pairwise
      fun one other => one.1 < other.1 := by
  apply List.Pairwise.filterMap _ _ ordered
  rintro ⟨names, item⟩ ⟨others, stored⟩ less ⟨_, _⟩ one ⟨_, _⟩ other
  obtain ⟨rfl, -⟩ := workbookAt?_eq_some_iff.mp one
  obtain ⟨rfl, -⟩ := workbookAt?_eq_some_iff.mp other
  exact less

theorem pairwise_walkedWorkbooks (tree : files.IsTree)
    (ordered : files.InWalkOrder) :
    (walkedWorkbooks files directory location exclude).Pairwise
      fun one other => one.1 < other.1 :=
  pairwise_filterMap_workbookAt? (pairwise_walkFrom tree ordered _ _)

/-- A place is left out if the excluded path is on the way down to it. -/
theorem isExcluded_iff_above {excluded : Path}
    (proper : ∀ name ∈ names, Path.IsFileName name) :
    isExcluded directory (some excluded) names = true ↔
      ∃ above, above <+: names ∧
        (placeBelow directory above).components = excluded.components := by
  have spelled : ∀ above, above <+: names →
      (placeBelow directory above).components =
        directory.components ++ above.map .name := by
    intro above up
    apply components_placeBelow
    intro name listed
    exact proper name (up.subset listed)
  rw [isExcluded, Option.bind_some]
  constructor
  · intro within
    split at within
    · rename_i below found
      have up := List.isPrefixOf_iff_prefix.mp within
      refine ⟨below, up, ?_⟩
      rw [spelled below up, Path.namesBelow?_eq_some_iff.mp found]
    · cases within
  · rintro ⟨above, up, same⟩
    rw [spelled above up] at same
    rw [Path.namesBelow?_eq_some_iff.mpr same.symm]
    exact List.isPrefixOf_iff_prefix.mpr up

theorem isExcluded_eq_false_iff
    (proper : ∀ name ∈ names, Path.IsFileName name) :
    isExcluded directory exclude names = false ↔
      ∀ excluded ∈ exclude, ∀ above, above <+: names →
        (placeBelow directory above).components ≠ excluded.components := by
  cases exclude with
  | none => simp [isExcluded]
  | some excluded =>
      rw [← Bool.not_eq_true, isExcluded_iff_above proper]
      simp

/-- The workbooks that are loaded are those that a walk finds, in its order. -/
theorem workbookFiles_eq_walked (tree : files.IsTree)
    (ordered : files.InWalkOrder)
    (inside : files.item? location = some .directory) :
    workbookFiles files directory location exclude =
      (walkedWorkbooks files directory location exclude).map fun file =>
        (placeBelow directory file.1, file.2) := by
  let kept := (files.below location).filter fun visited =>
    !isExcluded directory exclude visited.1
  have loaded : workbookFiles files directory location exclude =
      (kept.filterMap (workbookAt? directory)).map fun file =>
        (placeBelow directory file.1, file.2) := by
    rw [workbookFiles, List.map_filterMap, List.filterMap_filter]
    apply List.filterMap_congr
    rintro ⟨names, item⟩ -
    cases item with
    | directory => simp [workbookAt?]
    | file content =>
        simp only [workbookAt?]
        generalize isExcluded directory exclude names = excluded
        generalize isWorkbookPath (placeBelow directory names) = workbook
        generalize names.getLast?.any isBackupName = backup
        cases excluded <;> cases workbook <;> cases backup <;> rfl
  have same : kept.filterMap (workbookAt? directory) =
      walkedWorkbooks files directory location exclude := by
    apply eq_of_same_members
      (pairwise_filterMap_workbookAt?
        ((ordered.pairwise_below location).filter _))
      (pairwise_walkedWorkbooks tree ordered)
    intro names content
    rw [mem_walkedWorkbooks_iff tree, List.mem_filterMap]
    constructor
    · rintro ⟨⟨others, item⟩, listed, found⟩
      obtain ⟨rfl, rfl, named⟩ := workbookAt?_eq_some_iff.mp found
      obtain ⟨below, included⟩ := List.mem_filter.mp listed
      have proper := (isFileName_of_below tree below).2
      rw [Bool.not_eq_true', isExcluded_eq_false_iff proper] at included
      exact ⟨(ordered.mem_below_iff.mp below).1, named, included⟩
    · rintro ⟨stored, named, included⟩
      have deeper : names ≠ [] := by
        rintro rfl
        rw [List.append_nil, inside] at stored
        cases stored
      have below := ordered.mem_below_iff.mpr ⟨stored, deeper⟩
      have proper := (isFileName_of_below tree below).2
      refine ⟨(names, .file content), List.mem_filter.mpr ⟨below, ?_⟩,
        workbookAt?_eq_some_iff.mpr ⟨rfl, rfl, named⟩⟩
      rw [Bool.not_eq_true', isExcluded_eq_false_iff proper]
      exact included
  rw [loaded, same]

/-! ## What is loaded -/

/-- The file under the path that it is found at. -/
def foundAt (directory : Path) (file : List String × Content) :
    Path × Content :=
  (placeBelow directory file.1, file.2)

theorem pairwise_orderKey_walked (tree : files.IsTree)
    (ordered : files.InWalkOrder) :
    ((walkedWorkbooks files directory location exclude).map fun file =>
      (foundAt directory file).1.orderKey).Pairwise (· < ·) := by
  have spelled : ∀ file ∈ walkedWorkbooks files directory location exclude,
      (placeBelow directory file.1).components =
        directory.components ++ file.1.map .name := by
    rintro ⟨names, content⟩ listed
    have stored := ((mem_walkedWorkbooks_iff tree).mp listed).stored
    apply components_placeBelow
    intro name within
    exact (tree.isFileName_of_mem stored
      (List.mem_append_right location within)).1
  rw [List.pairwise_map]
  apply (pairwise_walkedWorkbooks tree ordered).imp_of_mem
  intro one other listed also less
  exact Path.orderKey_lt_of_names less (spelled one listed) (spelled other also)

/-- What a walk finds is loaded, file by file. -/
theorem load_eq_addFiles [WorkbookReader] (tree : files.IsTree)
    (ordered : files.InWalkOrder)
    (located : files.locate directory = .ok location)
    (inside : files.item? location = some .directory) :
    load files directory exclude =
      addFiles {} ((walkedWorkbooks files directory location exclude).map
        (foundAt directory)) := by
  have isDirectory : files.isDirectoryAt location = true := by
    rw [isDirectoryAt, inside]
    rfl
  rw [load, located]
  simp only [isDirectory, if_true]
  rw [workbookFiles_eq_walked tree ordered inside]
  rfl

/-- A site is loaded from what there is to discover below the directory, as a
walk finds it that turns back at the excluded path: each workbook once, in the
order of the paths.  The site has one page for each worksheet of each of them,
in their order; it is loaded unless a workbook offends, and the error names the
first one that does. -/
theorem load_discovers [WorkbookReader] (tree : files.IsTree)
    (ordered : files.InWalkOrder)
    (located : files.locate directory = .ok location)
    (inside : files.item? location = some .directory)
    (exclude : Option Path) :
    ∃ found,
      found = walkedWorkbooks files directory location exclude ∧
      (∀ names content, (names, content) ∈ found ↔
        Discovered files directory location exclude names content) ∧
      (found.map fun file => (foundAt directory file).1.orderKey).Pairwise
        (· < ·) ∧
      (∀ site, load files directory exclude = .ok site → ∃ blocks,
        List.Forall₂ Loads (found.map (foundAt directory)) blocks ∧
          site.pages = blocks.flatten) ∧
      (∀ error, load files directory exclude = .error error →
        ∃ before file after, found = before ++ file :: after ∧
          (∀ earlier ∈ before,
            ∃ pages, Loads (foundAt directory earlier) pages) ∧
          Offends (foundAt directory file) error) ∧
      ((∃ site, load files directory exclude = .ok site) ↔
        ∀ file ∈ found, ∃ pages, Loads (foundAt directory file) pages) := by
  have outcome := addFiles_cases {}
    ((walkedWorkbooks files directory location exclude).map
      (foundAt directory))
  rw [← load_eq_addFiles tree ordered located inside] at outcome
  refine ⟨_, rfl, fun _ _ => mem_walkedWorkbooks_iff tree,
    pairwise_orderKey_walked tree ordered, ?_, ?_, ?_⟩
  · intro site succeeded
    rcases outcome with ⟨blocks, each, same⟩ |
      ⟨before, file, after, error, -, -, -, fails⟩
    · cases succeeded.symm.trans same
      exact ⟨blocks, each, List.nil_append _⟩
    · cases succeeded.symm.trans fails
  · intro error failed
    rcases outcome with ⟨blocks, each, same⟩ |
      ⟨before, file, after, other, split, sound, offends, fails⟩
    · cases failed.symm.trans same
    · cases failed.symm.trans fails
      obtain ⟨earlier, rest, whole, rfl, last⟩ :=
        List.map_eq_append_iff.mp split
      obtain ⟨first, later, rfl, rfl, -⟩ := List.map_eq_cons_iff.mp last
      refine ⟨earlier, first, later, whole, ?_, offends⟩
      intro one listed
      exact sound _ (List.mem_map_of_mem listed)
  · rcases outcome with ⟨blocks, each, same⟩ |
      ⟨before, file, after, error, split, -, offends, fails⟩
    · constructor
      · rintro - file listed
        exact exists_of_forall₂ each _ (List.mem_map_of_mem listed)
      · rintro -
        exact ⟨_, same⟩
    · constructor
      · rintro ⟨site, succeeded⟩
        cases succeeded.symm.trans fails
      · intro sound
        have listed : file ∈ (walkedWorkbooks files directory location
            exclude).map (foundAt directory) := by
          rw [split]
          exact List.mem_append_right before List.mem_cons_self
        obtain ⟨_, found, rfl⟩ := List.mem_map.mp listed
        obtain ⟨pages, loads⟩ := sound _ found
        exact absurd offends loads.not_offends

/-- A workbook with two worksheets. -/
def pairedWorkbook : Workbook :=
  ⟨(Build.pageWorkbook "inner" "/inner.html").worksheets ++
    (Build.pageWorkbook "annex" "/annex.html").worksheets⟩

/-- Workbooks in a directory and next to it, a backup, and a workbook among the
static files. -/
def shelvedFiles : FileSystem where
  items :=
    [(["spec"], .directory), (["spec", "a"], .directory),
     (["spec", "a", "inner.XLSX"], .file (.workbook pairedWorkbook)),
     (["spec", "a.xlsx"],
       .file (.workbook (Build.pageWorkbook "outer" "/outer.html"))),
     (["spec", "static"], .directory),
     (["spec", "static", "left.xlsx"],
       .file (.workbook (Build.pageWorkbook "left" "/left.html"))),
     (["spec", "~a.xlsx"], .file (.text ""))]

theorem isTree_shelvedFiles : shelvedFiles.IsTree := by
  apply isTree_of_items rfl
  decide +kernel

theorem inWalkOrder_shelvedFiles : shelvedFiles.InWalkOrder := by
  decide +kernel

theorem locate_shelvedFiles :
    shelvedFiles.locate ⟨"spec"⟩ = .ok ["spec"] :=
  Outcome.eq_ok_of_toOption (by decide +kernel)

/-- The workbook in the directory comes first, for a slash is no character of a
name; both of its worksheets have their page. -/
theorem load_discovers_shelvedFiles :
    shelvedFiles.IsTree ∧ shelvedFiles.InWalkOrder ∧
      shelvedFiles.locate ⟨"spec"⟩ = .ok ["spec"] ∧
      shelvedFiles.item? ["spec"] = some .directory ∧
      ∃ (found : List (List String × Content)) (site : Site)
        (blocks : List (List SourcedPage)),
        (∀ names content, (names, content) ∈ found ↔
          Discovered shelvedFiles ⟨"spec"⟩ ["spec"] (some ⟨"spec/static"⟩)
            names content) ∧
        found.map (foundAt ⟨"spec"⟩) =
          [(⟨"spec/a/inner.XLSX"⟩, .workbook pairedWorkbook),
            (⟨"spec/a.xlsx"⟩,
              .workbook (Build.pageWorkbook "outer" "/outer.html"))] ∧
        load shelvedFiles ⟨"spec"⟩ (some ⟨"spec/static"⟩) = .ok site ∧
        site.pages.map (fun sourced => (sourced.source, sourced.page.name)) =
          [(⟨"spec/a/inner.XLSX"⟩, "inner"), (⟨"spec/a/inner.XLSX"⟩, "annex"),
            (⟨"spec/a.xlsx"⟩, "outer")] ∧
        List.Forall₂ Loads (found.map (foundAt ⟨"spec"⟩)) blocks ∧
        site.pages = blocks.flatten := by
  refine ⟨isTree_shelvedFiles, inWalkOrder_shelvedFiles, locate_shelvedFiles,
    rfl, ?_⟩
  obtain ⟨found, walked, discovered, -, pages, -, -⟩ :=
    load_discovers isTree_shelvedFiles inWalkOrder_shelvedFiles
      locate_shelvedFiles rfl (some ⟨"spec/static"⟩)
  have loads : (load shelvedFiles ⟨"spec"⟩ (some ⟨"spec/static"⟩)).toOption.map
      (fun site => site.pages.map fun sourced =>
        (sourced.source, sourced.page.name)) =
      some [(⟨"spec/a/inner.XLSX"⟩, "inner"), (⟨"spec/a/inner.XLSX"⟩, "annex"),
        (⟨"spec/a.xlsx"⟩, "outer")] := by
    decide +kernel
  obtain ⟨site, loaded, shown⟩ := Option.map_eq_some_iff.mp loads
  have loaded := Outcome.eq_ok_of_toOption loaded
  obtain ⟨blocks, each, whole⟩ := pages site loaded
  refine ⟨found, site, blocks, discovered, ?_, loaded, shown, each, whole⟩
  have flat : workbookFiles shelvedFiles ⟨"spec"⟩ ["spec"]
      (some ⟨"spec/static"⟩) = found.map (foundAt ⟨"spec"⟩) := by
    rw [walked]
    exact workbookFiles_eq_walked isTree_shelvedFiles
      inWalkOrder_shelvedFiles rfl
  rw [← flat]
  decide +kernel

end Site

end WorkbookSite

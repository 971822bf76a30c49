import Mathlib.Data.List.Nodup
import Mathlib.Data.List.Perm.Subperm
import WorkbookSite.Proofs.FollowedPaths

/-!
# Trees of files

A file system is a tree if every item has a proper name and stands in a
directory.  Making a directory or a file in a directory, and removing all that
is below a place, leaves a tree.  The paths that a system takes as a whole are
told apart here, too.
-/

namespace WorkbookSite

instance (name : String) : Decidable (Path.IsFileName name) :=
  decidable_of_iff
    ('/' ∉ name.toList ∧ Path.step? name.toList = some (.name name))
    ⟨fun proper => ⟨proper.1, proper.2⟩, fun proper => ⟨proper.1, proper.2⟩⟩

namespace FileSystem

variable {files : FileSystem}

/-- Every item has a name that a path can give to it. -/
def Named (files : FileSystem) : Prop :=
  ∀ ⦃place name item⦄, files.item? (place ++ [name]) = some item →
    Path.IsFileName name

/-- Every item has a name that is proper and not too long, and stands in a
directory; and relative paths start from a directory. -/
structure IsTree (files : FileSystem) : Prop where
  home : files.item? files.workingDirectory = some .directory
  named : files.Named
  short : ∀ ⦃place name item⦄, files.item? (place ++ [name]) = some item →
    isNameTooLong name = false
  parent : ∀ ⦃place name item⦄, files.item? (place ++ [name]) = some item →
    files.item? place = some .directory

theorem mem_items_of_item? {place : Location} {item : Item}
    (stored : files.item? place = some item) (inside : place ≠ []) :
    (place, item) ∈ files.items := by
  rw [item?_of_ne_root inside] at stored
  obtain ⟨before, after, spelled, -⟩ := List.lookup_eq_some_iff.mp stored
  rw [spelled]
  exact List.mem_append_right _ List.mem_cons_self

theorem isSome_item?_of_mem {place : Location} {item : Item}
    (listed : (place, item) ∈ files.items) :
    (files.item? place).isSome = true := by
  by_cases root : place = []
  · rw [root, item?_root]
    rfl
  · rw [item?_of_ne_root root, Option.isSome_iff_ne_none]
    intro absent
    have differs := List.lookup_eq_none_iff.mp absent (place, item) listed
    simp at differs

theorem isTree_of_items
    (home : files.item? files.workingDirectory = some .directory)
    (each : ∀ stored ∈ files.items, ∀ name ∈ stored.1.getLast?,
      Path.IsFileName name ∧ isNameTooLong name = false ∧
        files.item? stored.1.dropLast = some .directory) :
    files.IsTree := by
  have here : ∀ ⦃place name item⦄,
      files.item? (place ++ [name]) = some item →
        Path.IsFileName name ∧ isNameTooLong name = false ∧
          files.item? place = some .directory := by
    intro place name item stored
    have found := each _ (mem_items_of_item? stored (by simp)) name (by simp)
    rwa [List.dropLast_concat] at found
  constructor
  · exact home
  · intro place name item stored
    exact (here stored).1
  · intro place name item stored
    exact (here stored).2.1
  · intro place name item stored
    exact (here stored).2.2

theorem isPrefixOf?_eq_some_iff {α : Type} [BEq α] [LawfulBEq α]
    {start whole rest : List α} :
    start.isPrefixOf? whole = some rest ↔ whole = start ++ rest := by
  induction start generalizing whole with
  | nil => simp [List.isPrefixOf?, eq_comm]
  | cons first start induction =>
      cases whole with
      | nil => simp [List.isPrefixOf?]
      | cons other whole =>
          by_cases same : first = other
          · simp [List.isPrefixOf?, same, induction]
          · simp [List.isPrefixOf?, same, Ne.symm same]

theorem mem_below_iff {location : Location} {names : List String}
    {item : Item} :
    (names, item) ∈ files.below location ↔
      (location ++ names, item) ∈ files.items ∧ names ≠ [] := by
  rw [below, List.mem_filterMap]
  constructor
  · intro found
    obtain ⟨⟨place, stored⟩, listed, kept⟩ := found
    simp only at kept
    split at kept
    · rename_i name rest split
      cases kept
      rw [isPrefixOf?_eq_some_iff] at split
      rw [← split]
      exact ⟨listed, List.cons_ne_nil name rest⟩
    · cases kept
  · intro found
    obtain ⟨listed, inside⟩ := found
    obtain ⟨name, rest, rfl⟩ := List.exists_cons_of_ne_nil inside
    refine ⟨(location ++ name :: rest, item), listed, ?_⟩
    have split := isPrefixOf?_eq_some_iff.mpr
      (rfl : location ++ name :: rest = location ++ name :: rest)
    simp [split]

/-- The children of a directory are what is one name below it. -/
theorem mem_children_iff {location : Location} {name : String} :
    name ∈ files.children location ↔
      (files.item? (location ++ [name])).isSome = true := by
  rw [children, List.mem_filterMap]
  constructor
  · intro found
    obtain ⟨⟨names, item⟩, listed, kept⟩ := found
    split at kept
    · rename_i same
      cases same
      cases kept
      exact isSome_item?_of_mem (mem_below_iff.mp listed).1
    · cases kept
  · intro present
    obtain ⟨item, stored⟩ := Option.isSome_iff_exists.mp present
    have listed := mem_items_of_item? stored (by simp)
    exact ⟨([name], item), mem_below_iff.mpr ⟨listed, by simp⟩, rfl⟩

theorem Named.of_mem_children (named : files.Named) {location : Location}
    {name : String} (listed : name ∈ files.children location) :
    Path.IsFileName name := by
  obtain ⟨item, stored⟩ :=
    Option.isSome_iff_exists.mp (mem_children_iff.mp listed)
  exact named stored

/-! ## Putting and removing -/

theorem Named.put {location : Location} {name : String} {item : Item}
    (named : files.Named) (proper : Path.IsFileName name) :
    (files.put (location ++ [name]) item).Named := by
  intro place other found stored
  rw [item?_put _ _ (by simp)] at stored
  by_cases same : place ++ [other] = location ++ [name]
  · obtain ⟨-, last⟩ := List.append_inj' same rfl
    rw [List.singleton_inj.mp last]
    exact proper
  · rw [if_neg same] at stored
    exact named stored

theorem length_items_put (location : Location) (item : Item) :
    (files.put location item).items.length ≤ files.items.length + 1 := by
  have others := List.length_filter_le (fun entry => entry.1 != location)
    files.items
  have split := congrArg List.length (List.takeWhile_append_dropWhile
    (p := fun entry => Location.comesBefore entry.1 location)
    (l := files.items.filter fun entry => entry.1 != location))
  rw [List.length_append] at split
  simp only [put, List.length_append, List.length_cons]
  omega

namespace IsTree

/-- A directory or a file is put in a directory. -/
theorem put (tree : files.IsTree) {location : Location} {name : String}
    {item : Item} (parent : files.item? location = some .directory)
    (proper : Path.IsFileName name) (short : isNameTooLong name = false)
    (allowed : item = .directory ∨
      files.isDirectoryAt (location ++ [name]) = false) :
    (files.put (location ++ [name]) item).IsTree := by
  have inside : location ++ [name] ≠ [] := by simp
  have kept : ∀ {place}, files.item? place = some .directory →
      (files.put (location ++ [name]) item).item? place =
        some .directory := by
    intro place stored
    rw [item?_put _ _ inside]
    by_cases same : place = location ++ [name]
    · rw [if_pos same]
      rcases allowed with rfl | noDirectory
      · rfl
      · rw [isDirectoryAt, ← same, stored] at noDirectory
        cases noDirectory
    · rw [if_neg same]
      exact stored
  have either : ∀ {place other found},
      (files.put (location ++ [name]) item).item? (place ++ [other]) =
        some found →
          place = location ∧ other = name ∨
            files.item? (place ++ [other]) = some found := by
    intro place other found stored
    rw [item?_put _ _ inside] at stored
    by_cases same : place ++ [other] = location ++ [name]
    · obtain ⟨above, last⟩ := List.append_inj' same rfl
      exact .inl ⟨above, List.singleton_inj.mp last⟩
    · rw [if_neg same] at stored
      exact .inr stored
  constructor
  · exact kept tree.home
  · exact tree.named.put proper
  · intro place other found stored
    rcases either stored with ⟨-, rfl⟩ | before
    · exact short
    · exact tree.short before
  · intro place other found stored
    rcases either stored with ⟨rfl, -⟩ | before
    · exact kept parent
    · exact kept (tree.parent before)

theorem removeAt (tree : files.IsTree) {location : Location}
    (apart : ¬ location <+: files.workingDirectory) :
    (files.removeAt location).IsTree := by
  have kept : ∀ {place}, ¬ location <+: place →
      (files.removeAt location).item? place = files.item? place := by
    intro place other
    rcases item?_of_removed (.inl rfl) place with same | ⟨-, below⟩
    · exact same
    · exact absurd below other
  have before : ∀ {place name item},
      (files.removeAt location).item? (place ++ [name]) = some item →
        files.item? (place ++ [name]) = some item ∧
          ¬ location <+: place ++ [name] := by
    intro place name item stored
    rw [item?_removeAt (by simp)] at stored
    by_cases below : location <+: place ++ [name]
    · rw [if_pos below] at stored
      cases stored
    · rw [if_neg below] at stored
      exact ⟨stored, below⟩
  constructor
  · exact (kept apart).trans tree.home
  · intro place name item stored
    exact tree.named (before stored).1
  · intro place name item stored
    exact tree.short (before stored).1
  · intro place name item stored
    obtain ⟨there, other⟩ := before stored
    rw [kept fun below => other (below.trans (List.prefix_append ..))]
    exact tree.parent there

theorem item?_above (tree : files.IsTree) {higher below : Location}
    {item : Item} (stored : files.item? (higher ++ below) = some item)
    (lower : below ≠ []) : files.item? higher = some .directory := by
  induction below generalizing higher with
  | nil => exact absurd rfl lower
  | cons name below induction =>
      by_cases last : below = []
      · rw [last] at stored
        exact tree.parent stored
      · rw [List.append_cons] at stored
        exact tree.parent (induction stored last)

theorem item?_prefix (tree : files.IsTree) {higher place : Location}
    (stored : files.item? place = some .directory) (above : higher <+: place) :
    files.item? higher = some .directory := by
  obtain ⟨below, rfl⟩ := above
  by_cases same : below = []
  · rwa [same, List.append_nil] at stored
  · exact tree.item?_above stored same

/-- What is above a place that exists is there. -/
theorem isSome_item?_above (tree : files.IsTree) {higher below : Location}
    {item : Item} (stored : files.item? (higher ++ below) = some item) :
    (files.item? higher).isSome = true := by
  by_cases last : below = []
  · rw [last, List.append_nil] at stored
    rw [stored]
    rfl
  · rw [tree.item?_above stored last]
    rfl

theorem isFileName_of_mem (tree : files.IsTree) {place : Location}
    {item : Item} {name : String} (stored : files.item? place = some item)
    (listed : name ∈ place) :
    Path.IsFileName name ∧ isNameTooLong name = false := by
  obtain ⟨before, after, rfl⟩ := List.append_of_mem listed
  rw [List.append_cons] at stored
  obtain ⟨here, found⟩ :=
    Option.isSome_iff_exists.mp (tree.isSome_item?_above stored)
  exact ⟨tree.named found, tree.short found⟩

theorem item?_dropLast (tree : files.IsTree) {place : Location}
    (stored : files.item? place = some .directory) :
    files.item? place.dropLast = some .directory := by
  rcases List.eq_nil_or_concat place with rfl | ⟨above, name, rfl⟩
  · exact stored
  · rw [List.concat_eq_append] at stored ⊢
    rw [List.dropLast_concat]
    exact tree.parent stored

/-- No item lies deeper than there are items, since each of the directories
above it is one of them. -/
theorem length_le (tree : files.IsTree) {place : Location} {item : Item}
    (stored : files.item? place = some item) :
    place.length ≤ files.items.length := by
  let above := (List.range place.length).map fun depth => place.take (depth + 1)
  have distinct : above.Nodup := by
    apply List.Nodup.map_on _ List.nodup_range
    intro first here second there same
    have lengths := congrArg List.length same
    simp only [List.length_take, List.mem_range] at here there lengths
    omega
  have listed : above ⊆ files.items.map Prod.fst := by
    intro higher found
    obtain ⟨depth, bounded, rfl⟩ := List.mem_map.mp found
    rw [List.mem_range] at bounded
    rw [← List.take_append_drop (depth + 1) place] at stored
    obtain ⟨here, there⟩ :=
      Option.isSome_iff_exists.mp (tree.isSome_item?_above stored)
    have inside : place.take (depth + 1) ≠ [] := by
      rw [← List.length_pos_iff, List.length_take]
      omega
    exact List.mem_map_of_mem (mem_items_of_item? there inside)
  have bound := (List.subperm_of_subset distinct listed).length_le
  simpa [above] using bound

end IsTree

/-! ## Limits of paths -/

/-- The most bytes that a path can have. -/
def maxPathBytes : Nat := 4095

/-- The path as a whole can be handed to the system: it is not too long and
holds no NUL character.  Actions do not look at this, so it is asked for where
something is said to succeed. -/
def accepts (path : Path) : Bool :=
  decide (path.text.utf8ByteSize ≤ maxPathBytes) &&
    !path.text.toList.contains (Char.ofNat 0)

/-- The paths of a directory and of all that is below a place, taken as below
this directory, can be handed to the system. -/
def acceptsBelow (files : FileSystem) (path : Path) (location : Location) :
    Bool :=
  accepts (path.join (.ofNames [])) &&
    (files.below location).all fun (names, _) =>
      accepts (path.join (.ofNames names))

end FileSystem

end WorkbookSite

import Mathlib.Data.List.Nodup
import WorkbookSite.Proofs.ConfinedBuild
import WorkbookSite.Proofs.PathOrder

/-!
# Walks through files

A walk visits a directory before its contents, and the contents in the byte
order of their names.  The items of a file system are kept in an order that any
such walk agrees with, from whatever directory it starts and wherever it turns
back: what it visits has the order of paths.  Adding an item keeps this order.
-/

namespace WorkbookSite

theorem Location.comesBefore_iff_lt {first second : Location} :
    Location.comesBefore first second = true ↔ first < second := by
  induction first generalizing second with
  | nil =>
      cases second with
      | nil => simp [comesBefore]
      | cons name others => simp [comesBefore, List.nil_lt_cons]
  | cons name names induction =>
      cases second with
      | nil => simp [comesBefore, List.not_lt_nil]
      | cons other others =>
          simp only [comesBefore, Bool.or_eq_true, decide_eq_true_eq,
            Bool.and_eq_true, beq_iff_eq, induction, List.cons_lt_cons_iff]

theorem lt_of_append_lt {above names others : List String}
    (less : above ++ names < above ++ others) : names < others := by
  induction above with
  | nil => exact less
  | cons name above induction =>
      rcases List.cons_lt_cons_iff.mp less with before | ⟨-, later⟩
      · exact absurd before (lt_irrefl name)
      · exact induction later

namespace FileSystem

variable {files : FileSystem} {location place : Location}

/-- The items are in the order of their locations. -/
def InWalkOrder (files : FileSystem) : Prop :=
  files.items.Pairwise fun one other => one.1 < other.1

instance (files : FileSystem) : Decidable files.InWalkOrder :=
  inferInstanceAs (Decidable (files.items.Pairwise _))

theorem pairwise_insert {others : List (Location × Item)} {item : Item}
    (ordered : others.Pairwise fun one other => one.1 < other.1)
    (apart : ∀ other ∈ others, other.1 ≠ location) :
    (others.takeWhile (Location.comesBefore ·.1 location) ++
      (location, item) ::
        others.dropWhile (Location.comesBefore ·.1 location)).Pairwise
      fun one other => one.1 < other.1 := by
  induction others with
  | nil => exact List.pairwise_singleton _ _
  | cons first others induction =>
      obtain ⟨least, ordered⟩ := List.pairwise_cons.mp ordered
      obtain ⟨here, apart⟩ := List.forall_mem_cons.mp apart
      by_cases before : Location.comesBefore first.1 location = true
      · rw [List.takeWhile_cons, List.dropWhile_cons, if_pos before,
          if_pos before, List.cons_append, List.pairwise_cons]
        refine ⟨?_, induction ordered apart⟩
        intro other listed
        rw [List.mem_append, List.mem_cons] at listed
        rcases listed with earlier | rfl | later
        · exact least other ((List.takeWhile_sublist _).subset earlier)
        · exact Location.comesBefore_iff_lt.mp before
        · exact least other ((List.dropWhile_sublist _).subset later)
      · rw [List.takeWhile_cons, List.dropWhile_cons, if_neg before,
          if_neg before, List.nil_append, List.pairwise_cons]
        have above : location < first.1 := by
          rw [Location.comesBefore_iff_lt] at before
          exact lt_of_le_of_ne (not_lt.mp before) here.symm
        refine ⟨?_, List.pairwise_cons.mpr ⟨least, ordered⟩⟩
        intro other listed
        rcases List.mem_cons.mp listed with rfl | later
        · exact above
        · exact above.trans (least other later)

/-- What a list keeps of its items stands in the order that they had. -/
theorem sublist_map_filterMap {α β γ : Type} {visit : α → Option β}
    {key : α → γ} {back : β → γ}
    (inverse : ∀ one found, visit one = some found → back found = key one)
    (visited : List α) :
    ((visited.filterMap visit).map back).Sublist (visited.map key) := by
  induction visited with
  | nil => exact List.nil_sublist _
  | cons one others induction =>
      rw [List.map_cons]
      cases here : visit one with
      | none =>
          rw [List.filterMap_cons_none here]
          exact induction.cons _
      | some found =>
          rw [List.filterMap_cons_some here, List.map_cons,
            inverse one found here]
          exact induction.cons_cons _

theorem below_sublist (location : Location) :
    ((files.below location).map fun stored => location ++ stored.1).Sublist
      (files.items.map Prod.fst) := by
  apply sublist_map_filterMap
  rintro ⟨place, item⟩ ⟨names, kept⟩ found
  dsimp only at found
  split at found
  · rename_i here
    cases found
    exact (isPrefixOf?_eq_some_iff.mp here).symm
  · cases found

theorem children_sublist (location : Location) :
    ((files.children location).map fun name => [name]).Sublist
      ((files.below location).map Prod.fst) := by
  apply sublist_map_filterMap
  rintro ⟨names, item⟩ name found
  split at found
  · rename_i whole
    cases whole
    cases found
    rfl
  · cases found

namespace InWalkOrder

theorem put (ordered : files.InWalkOrder) (location : Location) (item : Item) :
    (files.put location item).InWalkOrder := by
  apply pairwise_insert (ordered.filter _)
  intro other listed
  simpa using (List.mem_filter.mp listed).2

theorem nodup_places (ordered : files.InWalkOrder) :
    (files.items.map Prod.fst).Nodup := by
  rw [List.Nodup, List.pairwise_map]
  exact ordered.imp ne_of_lt

theorem mem_items_iff (ordered : files.InWalkOrder) (inside : place ≠ [])
    {item : Item} :
    (place, item) ∈ files.items ↔ files.item? place = some item := by
  constructor
  · intro listed
    obtain ⟨stored, found⟩ :=
      Option.isSome_iff_exists.mp (isSome_item?_of_mem listed)
    have same := List.inj_on_of_nodup_map ordered.nodup_places
      (mem_items_of_item? found inside) listed rfl
    cases same
    exact found
  · intro stored
    exact mem_items_of_item? stored inside

theorem mem_below_iff (ordered : files.InWalkOrder) {names : List String}
    {item : Item} :
    (names, item) ∈ files.below location ↔
      files.item? (location ++ names) = some item ∧ names ≠ [] := by
  rw [FileSystem.mem_below_iff]
  apply and_congr_left
  intro named
  exact ordered.mem_items_iff (by simp [named])

theorem pairwise_below (ordered : files.InWalkOrder) (location : Location) :
    (files.below location).Pairwise fun one other => one.1 < other.1 := by
  have listed : (files.items.map Prod.fst).Pairwise (· < ·) :=
    List.pairwise_map.mpr ordered
  apply (List.pairwise_map.mp (listed.sublist (below_sublist location))).imp
  intro one other
  exact lt_of_append_lt

theorem nodup_children (ordered : files.InWalkOrder) (location : Location) :
    (files.children location).Nodup := by
  have distinct : ((files.below location).map Prod.fst).Nodup := by
    rw [List.Nodup, List.pairwise_map]
    exact (ordered.pairwise_below location).imp ne_of_lt
  exact (distinct.sublist (children_sublist location)).of_map _

end InWalkOrder

/-! ## Walks -/

/-- Names in the order of their bytes. -/
def sortNames (names : List String) : List String :=
  names.mergeSort fun one other =>
    !decide (Text.utf8Bytes other < Text.utf8Bytes one)

theorem mem_sortNames {name : String} {names : List String} :
    name ∈ sortNames names ↔ name ∈ names :=
  List.mem_mergeSort

theorem pairwise_sortNames {names : List String} (distinct : names.Nodup) :
    (sortNames names).Pairwise (· < ·) := by
  have sorted : (sortNames names).Pairwise fun one other =>
      (!decide (Text.utf8Bytes other < Text.utf8Bytes one)) = true := by
    apply List.pairwise_mergeSort
    · simp only [Text.utf8Bytes_lt_iff, Bool.not_eq_true',
        decide_eq_false_iff_not, not_lt]
      exact fun _ _ _ => le_trans
    · simp only [Text.utf8Bytes_lt_iff, Bool.or_eq_true, Bool.not_eq_true',
        decide_eq_false_iff_not, not_lt]
      exact le_total
  have differ : (sortNames names).Pairwise (· ≠ ·) :=
    (List.mergeSort_perm names _).nodup_iff.mpr distinct
  apply (sorted.and differ).imp
  rintro one other ⟨before, apart⟩
  simp only [Text.utf8Bytes_lt_iff, Bool.not_eq_true', decide_eq_false_iff_not,
    not_lt] at before
  exact lt_of_le_of_ne before apart

/-- What a walk visits from the place that `names` lead to, up to so many levels
of a tree.  It turns back at what it does not enter. -/
def walkFrom (files : FileSystem) (location : Location)
    (enters : List String → Bool) :
    Nat → List String → List (List String × Item)
  | 0, _ => []
  | levels + 1, names =>
      match files.item? (location ++ names) with
      | none => []
      | some item =>
          if enters names then
            (names, item) ::
              (sortNames (files.children (location ++ names))).flatMap
                fun name => walkFrom files location enters levels
                  (names ++ [name])
          else []

/-- A walk from a directory.  No tree has more levels than the file system has
items. -/
def walk (files : FileSystem) (location : Location)
    (enters : List String → Bool) : List (List String × Item) :=
  files.walkFrom location enters (files.items.length + 1) []

variable {enters : List String → Bool} {names others : List String}
  {item : Item} {levels : Nat}

/-- A walk visits what is at the place that it starts from, and what walks from
the places one name below visit. -/
theorem mem_walkFrom_succ_iff :
    (others, item) ∈ files.walkFrom location enters (levels + 1) names ↔
      enters names = true ∧ (files.item? (location ++ names)).isSome = true ∧
        ((others = names ∧ files.item? (location ++ names) = some item) ∨
          ∃ name, (files.item? (location ++ (names ++ [name]))).isSome = true ∧
            (others, item) ∈
              files.walkFrom location enters levels (names ++ [name])) := by
  rw [walkFrom]
  cases stored : files.item? (location ++ names) with
  | none => simp
  | some found =>
      by_cases entered : enters names = true
      · simp only [entered, if_true, List.mem_cons, List.mem_flatMap,
          mem_sortNames, mem_children_iff, Prod.mk.injEq, Option.isSome_some,
          true_and, Option.some.injEq, List.append_assoc, eq_comm]
      · simp [entered]

/-- A walk visits the places that exist, down from where it starts, if it enters
all that leads to them. -/
theorem mem_walkFrom_iff (tree : files.IsTree) :
    (others, item) ∈ files.walkFrom location enters levels names ↔
      names <+: others ∧ others.length < names.length + levels ∧
        files.item? (location ++ others) = some item ∧
        ∀ above, names <+: above → above <+: others →
          enters above = true := by
  induction levels generalizing names with
  | zero =>
      rw [walkFrom]
      constructor
      · intro listed
        cases listed
      · rintro ⟨below, short, -⟩
        have long := below.length_le
        omega
  | succ levels induction =>
      rw [mem_walkFrom_succ_iff]
      constructor
      · rintro ⟨entered, -, ⟨rfl, stored⟩ | ⟨name, -, visited⟩⟩
        · refine ⟨List.prefix_refl others, by omega, stored, ?_⟩
          intro above down up
          rw [← down.eq_of_length_le up.length_le]
          exact entered
        · obtain ⟨below, short, stored, within⟩ := induction.mp visited
          rw [List.length_append, List.length_singleton] at short
          refine ⟨(List.prefix_append names [name]).trans below, by omega,
            stored, ?_⟩
          rintro above ⟨rest, rfl⟩ up
          cases rest with
          | nil =>
              rw [List.append_nil]
              exact entered
          | cons first rest =>
              apply within _ _ up
              obtain ⟨after, rfl⟩ := below
              rw [List.append_assoc, List.prefix_append_right_inj,
                List.singleton_append, List.cons_prefix_cons] at up
              obtain ⟨rfl, -⟩ := up
              exact ⟨rest, by simp⟩
      · rintro ⟨⟨rest, rfl⟩, short, stored, within⟩
        have entered := within names (List.prefix_refl names)
          (List.prefix_append names rest)
        have here : (files.item? (location ++ names)).isSome = true := by
          rw [← List.append_assoc] at stored
          exact tree.isSome_item?_above stored
        cases rest with
        | nil =>
            rw [List.append_nil] at stored ⊢
            exact ⟨entered, here, .inl ⟨rfl, stored⟩⟩
        | cons name rest =>
            have split : names ++ name :: rest = (names ++ [name]) ++ rest :=
              List.append_cons names name rest
            rw [split] at stored short within
            have next : (files.item?
                (location ++ (names ++ [name]))).isSome = true := by
              rw [← List.append_assoc] at stored
              exact tree.isSome_item?_above stored
            refine ⟨entered, here, .inr ⟨name, next, ?_⟩⟩
            rw [induction, split]
            refine ⟨List.prefix_append _ rest, ?_, stored, ?_⟩
            · simp only [List.length_append, List.length_cons] at short ⊢
              omega
            · intro above down up
              exact within above ((List.prefix_append names [name]).trans down)
                up

theorem mem_walk_iff (tree : files.IsTree) :
    (names, item) ∈ files.walk location enters ↔
      files.item? (location ++ names) = some item ∧
        ∀ above, above <+: names → enters above = true := by
  rw [walk, mem_walkFrom_iff tree]
  constructor
  · rintro ⟨-, -, stored, within⟩
    exact ⟨stored, fun above => within above List.nil_prefix⟩
  · rintro ⟨stored, within⟩
    have depth := tree.length_le stored
    rw [List.length_append] at depth
    refine ⟨List.nil_prefix, ?_, stored, fun above _ => within above⟩
    rw [List.length_nil]
    omega

/-- A walk visits each place once, in the order of the paths. -/
theorem pairwise_walkFrom (tree : files.IsTree) (ordered : files.InWalkOrder)
    (levels : Nat) (names : List String) :
    (files.walkFrom location enters levels names).Pairwise
      fun one other => one.1 < other.1 := by
  induction levels generalizing names with
  | zero => exact List.Pairwise.nil
  | succ levels induction =>
      rw [walkFrom]
      split
      · exact List.Pairwise.nil
      · split
        · rw [List.pairwise_cons, List.pairwise_flatMap]
          refine ⟨?_, fun name _ => induction (names ++ [name]), ?_⟩
          · rintro ⟨others, item⟩ listed
            obtain ⟨name, -, visited⟩ := List.mem_flatMap.mp listed
            obtain ⟨rest, rfl⟩ := ((mem_walkFrom_iff tree).mp visited).1
            have longer : names ++ [] < names ++ ([name] ++ rest) :=
              List.append_left_lt (List.nil_lt_cons name rest)
            rwa [List.append_nil, ← List.append_assoc] at longer
          · apply (pairwise_sortNames (ordered.nodup_children _)).imp
            rintro name other less ⟨first, item⟩ here ⟨second, stored⟩ there
            obtain ⟨rest, rfl⟩ := ((mem_walkFrom_iff tree).mp here).1
            obtain ⟨more, rfl⟩ := ((mem_walkFrom_iff tree).mp there).1
            rw [List.append_assoc, List.append_assoc]
            apply List.append_left_lt
            exact List.cons_lt_cons_iff.mpr (.inl less)
        · exact List.Pairwise.nil

/-- Two walks that find the same find it in the same order. -/
theorem eq_of_same_members {α : Type} {first second : List (List String × α)}
    (one : first.Pairwise fun one other => one.1 < other.1)
    (two : second.Pairwise fun one other => one.1 < other.1)
    (same : ∀ names found, (names, found) ∈ first ↔ (names, found) ∈ second) :
    first = second := by
  have : Std.Antisymm fun one other : List String × α => one.1 < other.1 :=
    ⟨fun _ _ less more => absurd (less.trans more) (lt_irrefl _)⟩
  have : Std.Irrefl fun one other : List String × α => one.1 < other.1 :=
    ⟨fun _ => lt_irrefl _⟩
  exact one.eq_of_mem_iff two fun found => same found.1 found.2

end FileSystem

namespace Build

open FileSystem

/-- The items are in order, and have the names that files can have. -/
structure Ordered (home : Location) (files : FileSystem) : Prop where
  settled : files.workingDirectory = home
  named : files.Named
  ordered : files.InWalkOrder

theorem Ordered.put {home : Location} {files : FileSystem} {place : Location}
    {name : String} (kept : Ordered home files) (proper : Path.IsFileName name)
    (item : Item) : Ordered home (files.put (place ++ [name]) item) :=
  ⟨kept.settled, kept.named.put proper, kept.ordered.put _ item⟩

theorem Ordered.writable (home : Location) (output : Path) :
    Writable (Ordered home) home output (fun _ => True) := by
  constructor
  · intro files kept
    exact kept.settled
  · intro files passed name kept listed _
    exact kept.put
      (Path.isFileName_of_mem_components (name_mem_of_passed listed)) _
  · intro files names name kept proper _
    exact kept.put proper _
  · intro files names name content kept _ proper _
    exact kept.put proper _

end Build

end WorkbookSite

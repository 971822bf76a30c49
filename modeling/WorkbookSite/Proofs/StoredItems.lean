import WorkbookSite.Files.FileSystem
import WorkbookSite.Proofs.AssociationLists

/-!
# Stored items

What is at a location after an item is put somewhere or items are removed, and
how an action made of two runs.
-/

namespace WorkbookSite

namespace FileSystem

theorem item?_root (files : FileSystem) : files.item? [] = some .directory := by
  rw [item?, if_pos rfl]

theorem item?_of_ne_root {files : FileSystem} {place : Location}
    (inside : place ≠ []) : files.item? place = files.items.lookup place := by
  rw [item?, if_neg inside]

theorem ne_root_of_item? {files : FileSystem} {place : Location}
    {item : Option Item} (found : files.item? place = item)
    (other : item ≠ some .directory) : place ≠ [] := by
  intro root
  apply other
  rw [← found, root, item?_root]

theorem item?_put (files : FileSystem) {location : Location} (item : Item)
    (inside : location ≠ []) (place : Location) :
    (files.put location item).item? place =
      if place = location then some item else files.item? place := by
  by_cases root : place = []
  · subst root
    rw [if_neg (Ne.symm inside), item?_root, item?_root]
  have others := lookup_filter_fst (fun stored => stored != location)
    files.items place
  rw [item?_of_ne_root root, item?_of_ne_root root, put]
  rw [← List.takeWhile_append_dropWhile
    (p := fun entry => Location.comesBefore entry.1 location)
    (l := files.items.filter fun entry => entry.1 != location),
    List.lookup_append] at others
  rw [List.lookup_append, List.lookup_cons]
  by_cases same : place = location
  · subst same
    simp only [bne_self_eq_false, Bool.false_eq_true, if_false,
      Option.or_eq_none_iff] at others
    rw [others.1]
    simp
  · simpa [same, beq_eq_false_iff_ne.mpr same] using others

theorem item?_filter (files : FileSystem) (keep : Location → Bool)
    (place : Location) :
    item? { files with
      items := files.items.filter fun (stored, _) => keep stored } place =
      if place = [] ∨ keep place = true then files.item? place else none := by
  by_cases root : place = []
  · rw [root, item?_root, item?_root, if_pos (.inl rfl)]
  · rw [item?_of_ne_root root, item?_of_ne_root root]
    simpa [root] using lookup_filter_fst keep files.items place

theorem item?_removeAt {files : FileSystem} {location place : Location}
    (inside : place ≠ []) :
    (files.removeAt location).item? place =
      if location <+: place then none else files.item? place := by
  apply (item?_filter files (fun place => !location.isPrefixOf place)
    place).trans
  by_cases below : location <+: place
  · simp [below, inside, List.isPrefixOf_iff_prefix.mpr below]
  · have test : location.isPrefixOf place = false :=
      Bool.eq_false_iff.mpr fun found =>
        below (List.isPrefixOf_iff_prefix.mp found)
    simp [below, test]

theorem item?_removeBelow_self {files : FileSystem} {location : Location} :
    (files.removeBelow location).item? location = files.item? location := by
  apply (item?_filter files (fun place =>
    place == location || !location.isPrefixOf place) location).trans
  simp

theorem item?_removeBelow {files : FileSystem} {location place : Location}
    (inside : place ≠ []) (other : place ≠ location) :
    (files.removeBelow location).item? place =
      if location <+: place then none else files.item? place := by
  rw [← item?_removeAt inside]
  apply (item?_filter files (fun place =>
    place == location || !location.isPrefixOf place) place).trans
  rw [beq_eq_false_iff_ne.mpr other, Bool.false_or]
  exact (item?_filter files (fun place => !location.isPrefixOf place)
    place).symm

/-- Removing items below a location leaves the others as they are. -/
theorem item?_of_removed {files after : FileSystem} {location : Location}
    (removed : after = files.removeAt location ∨
      after = files.removeBelow location) (place : Location) :
    after.item? place = files.item? place ∨
      after.item? place = none ∧ location <+: place := by
  by_cases root : place = []
  · rw [root, item?_root, item?_root]
    exact .inl rfl
  · by_cases below : location <+: place
    · rcases removed with rfl | rfl
      · rw [item?_removeAt root, if_pos below]
        exact .inr ⟨rfl, below⟩
      · by_cases itself : place = location
        · rw [itself, item?_removeBelow_self]
          exact .inl rfl
        · rw [item?_removeBelow root itself, if_pos below]
          exact .inr ⟨rfl, below⟩
    · have other : place ≠ location := by
        rintro rfl
        exact below List.prefix_rfl
      rcases removed with rfl | rfl
      · rw [item?_removeAt root, if_neg below]
        exact .inl rfl
      · rw [item?_removeBelow root other, if_neg below]
        exact .inl rfl

end FileSystem

namespace FileAction

variable {ε α β : Type}

/-- An action made of two stops at the first one that fails, and keeps what was
changed until then. -/
theorem bind_ran {first : FileAction ε α} {next : α → FileAction ε β}
    {files after : FileSystem} {outcome : Except ε β}
    (ran : (first >>= next) files = (outcome, after)) :
    (∃ value middle, first files = (.ok value, middle) ∧
        next value middle = (outcome, after)) ∨
      ∃ error, first files = (.error error, after) ∧
        outcome = .error error := by
  rcases here : first files with ⟨result, middle⟩
  simp only [bind, ExceptT.bind, ExceptT.mk, ExceptT.bindCont, StateT.bind,
    here] at ran
  cases result with
  | ok value => exact .inl ⟨value, middle, rfl, ran⟩
  | error error =>
      cases ran
      exact .inr ⟨error, rfl, rfl⟩

/-- The files after a run are found by running. -/
theorem ran_of_outcome {action : FileAction ε α} {files : FileSystem}
    {outcome : Except ε α} (same : (action files).1 = outcome) :
    action files = (outcome, (action files).2) := by
  subst same
  rfl

theorem bind_of_succeeded {first : FileAction ε α} {next : α → FileAction ε β}
    {files middle : FileSystem} {value : α}
    (here : first files = (.ok value, middle)) :
    (first >>= next) files = next value middle := by
  simp only [bind, ExceptT.bind, ExceptT.mk, ExceptT.bindCont, StateT.bind,
    here]

theorem bind_of_failed {first : FileAction ε α} {next : α → FileAction ε β}
    {files after : FileSystem} {error : ε}
    (here : first files = (.error error, after)) :
    (first >>= next) files = (.error error, after) := by
  simp only [bind, ExceptT.bind, ExceptT.mk, ExceptT.bindCont, StateT.bind,
    here]
  rfl

theorem get_bind_eq (next : FileSystem → FileAction ε β) (files : FileSystem) :
    (get >>= next : FileAction ε β) files = next files files := rfl

theorem get_bind_ran {next : FileSystem → FileAction ε β}
    {files after : FileSystem} {outcome : Except ε β} :
    ((get >>= next : FileAction ε β) files = (outcome, after)) ↔
      next files files = (outcome, after) := Iff.rfl

theorem set_bind_ran {next : Unit → FileAction ε β}
    {files stored after : FileSystem} {outcome : Except ε β} :
    ((set stored >>= next : FileAction ε β) files = (outcome, after)) ↔
      next () stored = (outcome, after) := Iff.rfl

theorem pure_ran {value : α} {files after : FileSystem}
    {outcome : Except ε α} :
    ((pure value : FileAction ε α) files = (outcome, after)) ↔
      .ok value = outcome ∧ files = after :=
  Prod.mk.injEq .. |>.to_iff

theorem throw_ran {error : ε} {files after : FileSystem}
    {outcome : Except ε α} :
    ((throw error : FileAction ε α) files = (outcome, after)) ↔
      .error error = outcome ∧ files = after :=
  Prod.mk.injEq .. |>.to_iff

theorem throw_bind_ran {error : ε} {next : α → FileAction ε β}
    {files after : FileSystem} {outcome : Except ε β} :
    ((throw error >>= next : FileAction ε β) files = (outcome, after)) ↔
      .error error = outcome ∧ files = after :=
  Prod.mk.injEq .. |>.to_iff

theorem liftExcept_ran {reading outcome : Except ε α}
    {files after : FileSystem}
    (ran : (liftExcept reading : FileAction ε α) files = (outcome, after)) :
    reading = outcome ∧ files = after := by
  cases reading with
  | ok value => exact pure_ran.mp ran
  | error error => exact throw_ran.mp ran

theorem orElseFail_ran {action : FileAction Refusal α} {error : ε}
    {files after : FileSystem} {outcome : Except ε α}
    (ran : action.orElseFail error files = (outcome, after)) :
    ∃ result, action files = (result, after) ∧
      result.mapError (fun _ => error) = outcome := by
  have named : action.orElseFail error files =
      ((action files).1.mapError fun _ => error, (action files).2) := rfl
  rw [named] at ran
  rcases here : action files with ⟨result, middle⟩
  rw [here] at ran
  cases ran
  exact ⟨result, rfl, rfl⟩

end FileAction

end WorkbookSite

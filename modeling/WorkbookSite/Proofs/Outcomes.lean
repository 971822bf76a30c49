/-!
# Outcomes of readings

When a reading in several parts succeeds, each part of it succeeded; when it
fails, the first part that failed did.
-/

namespace WorkbookSite.Outcome

variable {ε φ α β : Type}

theorem bind_eq_ok {first : Except ε α} {next : α → Except ε β}
    {result : β} :
    (first >>= next) = .ok result ↔
      ∃ value, first = .ok value ∧ next value = .ok result := by
  cases first with
  | error fault => simp [bind, Except.bind]
  | ok value => simp [bind, Except.bind]

theorem bind_eq_error {first : Except ε α} {next : α → Except ε β}
    {fault : ε} :
    (first >>= next) = .error fault ↔
      first = .error fault ∨
        ∃ value, first = .ok value ∧ next value = .error fault := by
  cases first with
  | error other => simp [bind, Except.bind]
  | ok value => simp [bind, Except.bind]

theorem mapError_eq_ok {reading : Except ε α} {change : ε → φ}
    {result : α} :
    reading.mapError change = .ok result ↔ reading = .ok result := by
  cases reading with
  | error fault =>
      constructor
      · intro same
        cases same
      · intro same
        cases same
  | ok value =>
      constructor
      · intro same
        cases same
        rfl
      · intro same
        cases same
        rfl

theorem mapError_eq_error {reading : Except ε α} {change : ε → φ}
    {fault : φ} :
    reading.mapError change = .error fault ↔
      ∃ cause, reading = .error cause ∧ change cause = fault := by
  cases reading with
  | error cause =>
      constructor
      · intro same
        cases same
        exact ⟨cause, rfl, rfl⟩
      · rintro ⟨other, same, rfl⟩
        cases same
        rfl
  | ok value =>
      constructor
      · intro same
        cases same
      · rintro ⟨other, same, -⟩
        cases same

theorem map_eq_ok {reading : Except ε α} {change : α → β} {result : β} :
    reading.map change = .ok result ↔
      ∃ value, reading = .ok value ∧ change value = result := by
  cases reading with
  | error fault => simp [Except.map]
  | ok value => simp [Except.map]

theorem mapError_bind {first : Except ε α} {next : α → Except ε β}
    {change : ε → φ} :
    (first >>= next).mapError change =
      first.mapError change >>= fun value => (next value).mapError change := by
  cases first <;> rfl

theorem mapError_map {reading : Except ε α} {next : α → β} {change : ε → φ} :
    (reading.map next).mapError change =
      (reading.mapError change).map next := by
  cases reading <;> rfl

theorem mapError_mapError {ψ : Type} {reading : Except ε α} {change : ε → φ}
    {again : φ → ψ} :
    (reading.mapError change).mapError again =
      reading.mapError (again ∘ change) := by
  cases reading <;> rfl

theorem mapError_id {reading : Except ε α} : reading.mapError id = reading := by
  cases reading <;> rfl

theorem not_of_error {claim : Prop} {reading : Except ε α} {result : α}
    (succeeds : claim → reading = .ok result) :
    ∀ fault, reading = .error fault → ¬ claim := by
  intro fault failed holds
  rw [succeeds holds] at failed
  cases failed

/-- The fault that a reading ends with. -/
def failure? : Except ε α → Option ε
  | .error fault => some fault
  | .ok _ => none

theorem failure?_eq_some_iff {reading : Except ε α} {fault : ε} :
    failure? reading = some fault ↔ reading = .error fault := by
  cases reading <;> simp [failure?]

/-- Of two readings one after the other, the first one that fails gives the
fault, when success or failure of the second does not hang on the value of the
first. -/
theorem failure?_bind {first : Except ε α} {next : α → Except ε β}
    {later : Option ε}
    (same : ∀ value, first = .ok value → failure? (next value) = later) :
    failure? (first >>= next) = (failure? first).or later := by
  cases first with
  | error fault => rfl
  | ok value => exact same value rfl

theorem failure?_bind_ok {first : Except ε α} {change : α → β} :
    failure? (first >>= fun value => .ok (change value)) = failure? first := by
  cases first <;> rfl

theorem failure?_map {reading : Except ε α} {change : α → β} :
    failure? (reading.map change) = failure? reading := by
  cases reading <;> rfl

theorem mapM_congr {read other : α → Except ε β} {items : List α}
    (same : ∀ item ∈ items, read item = other item) :
    items.mapM read = items.mapM other := by
  induction items with
  | nil => rfl
  | cons item items induction =>
      obtain ⟨here, later⟩ := List.forall_mem_cons.mp same
      rw [List.mapM_cons, List.mapM_cons, here, induction later]

/-- If each reading of a list succeeds, the results are the values of the
items. -/
theorem mapM_eq_ok (read : α → Except ε β) {value : α → β}
    (reads : ∀ item result, read item = .ok result → result = value item)
    {items : List α} {results : List β}
    (succeeded : items.mapM read = .ok results) :
    results = items.map value ∧
      ∀ item ∈ items, read item = .ok (value item) := by
  induction items generalizing results with
  | nil =>
      cases succeeded
      exact ⟨rfl, List.forall_mem_nil _⟩
  | cons item items induction =>
      rw [List.mapM_cons] at succeeded
      obtain ⟨result, first, succeeded⟩ := bind_eq_ok.mp succeeded
      obtain ⟨others, later, succeeded⟩ := bind_eq_ok.mp succeeded
      cases succeeded
      obtain ⟨rfl, each⟩ := induction later
      obtain rfl := reads item result first
      exact ⟨rfl, List.forall_mem_cons.mpr ⟨first, each⟩⟩

/-- If a reading of a list fails, it fails at the first item that cannot be
read. -/
theorem mapM_eq_error (read : α → Except ε β) {items : List α} {fault : ε}
    (failed : items.mapM read = .error fault) :
    ∃ before item after, items = before ++ item :: after ∧
      (∀ earlier ∈ before, ∃ result, read earlier = .ok result) ∧
      read item = .error fault := by
  induction items with
  | nil => cases failed
  | cons item items induction =>
      rw [List.mapM_cons] at failed
      rcases bind_eq_error.mp failed with here | ⟨result, first, failed⟩
      · exact ⟨[], item, items, rfl, List.forall_mem_nil _, here⟩
      · rcases bind_eq_error.mp failed with later | ⟨others, -, failed⟩
        · obtain ⟨before, failing, after, rfl, each, there⟩ := induction later
          exact ⟨item :: before, failing, after, rfl,
            List.forall_mem_cons.mpr ⟨⟨result, first⟩, each⟩, there⟩
        · cases failed

instance decidableEq [DecidableEq ε] [DecidableEq α] :
    DecidableEq (Except ε α)
  | .ok first, .ok second =>
      decidable_of_iff (first = second) (Except.ok.injEq ..).to_iff.symm
  | .error first, .error second =>
      decidable_of_iff (first = second) (Except.error.injEq ..).to_iff.symm
  | .ok _, .error _ => isFalse nofun
  | .error _, .ok _ => isFalse nofun

theorem eq_ok_of_toOption {reading : Except ε α} {result : α}
    (found : reading.toOption = some result) : reading = .ok result := by
  cases reading with
  | error fault => cases found
  | ok value =>
      cases found
      rfl

end WorkbookSite.Outcome

import WorkbookSite.Proofs.Outcomes
import WorkbookSite.Proofs.StoredItems

/-!
# Invariants of actions

An action maintains an invariant if the invariant still holds when the action
ends, also when it fails.  Together with the faults it can fail with, this is a
property of the parts of an action: a sequence or a loop has it if each part
has.
-/

namespace WorkbookSite.FileAction

variable {ε α β : Type} {files : FileSystem}
  {invariant : FileSystem → Prop} {fault : ε → Prop}

/-- Run on these files, the action establishes the invariant, whether it
succeeds or not, and fails only with such a fault. -/
def Establishes (files : FileSystem) (invariant : FileSystem → Prop)
    (fault : ε → Prop) (action : FileAction ε α) : Prop :=
  ∀ ⦃outcome after⦄, action files = (outcome, after) →
    invariant after ∧ ∀ error, outcome = .error error → fault error

/-- Where the invariant holds, the action keeps it and fails only with such a
fault. -/
def Maintains (invariant : FileSystem → Prop) (fault : ε → Prop)
    (action : FileAction ε α) : Prop :=
  ∀ ⦃files⦄, invariant files → Establishes files invariant fault action

theorem Establishes.mono {stronger : FileSystem → Prop} {fewer : ε → Prop}
    {action : FileAction ε α} (established :
      Establishes files stronger fewer action)
    (holds : ∀ after, stronger after → invariant after)
    (allowed : ∀ error, fewer error → fault error) :
    Establishes files invariant fault action := by
  intro outcome after ran
  obtain ⟨strong, few⟩ := established ran
  refine ⟨holds after strong, ?_⟩
  intro error failed
  exact allowed error (few error failed)

/-- What the second part of an action has to establish starts from where the
first part ends. -/
theorem Establishes.andThen {first : FileAction ε α}
    {next : α → FileAction ε β}
    (stopped : ∀ error after, first files = (.error error, after) →
      invariant after ∧ fault error)
    (rest : ∀ value middle, first files = (.ok value, middle) →
      Establishes middle invariant fault (next value)) :
    Establishes files invariant fault (first >>= next) := by
  intro outcome after ran
  rcases bind_ran ran with ⟨value, middle, here, later⟩ | ⟨error, here, rfl⟩
  · exact rest value middle here later
  · obtain ⟨holds, allowed⟩ := stopped error after here
    refine ⟨holds, ?_⟩
    intro other same
    cases same
    exact allowed

theorem Establishes.bind {first : FileAction ε α}
    {next : α → FileAction ε β}
    (start : Establishes files invariant fault first)
    (rest : ∀ value, Maintains invariant fault (next value)) :
    Establishes files invariant fault (first >>= next) := by
  apply Establishes.andThen
  · intro error after here
    exact ⟨(start here).1, (start here).2 error rfl⟩
  · intro value middle here
    exact rest value (start here).1

theorem Maintains.bind {first : FileAction ε α} {next : α → FileAction ε β}
    (start : Maintains invariant fault first)
    (rest : ∀ value, Maintains invariant fault (next value)) :
    Maintains invariant fault (first >>= next) :=
  fun _ holds => (start holds).bind rest

theorem Maintains.get_bind {next : FileSystem → FileAction ε β}
    (rest : ∀ files, invariant files →
      Establishes files invariant fault (next files)) :
    Maintains invariant fault (get >>= next : FileAction ε β) :=
  fun files holds _ _ ran => rest files holds (get_bind_ran.mp ran)

theorem Maintains.pure (value : α) :
    Maintains invariant fault (Pure.pure value : FileAction ε α) := by
  intro files holds outcome after ran
  obtain ⟨rfl, rfl⟩ := pure_ran.mp ran
  refine ⟨holds, ?_⟩
  intro error same
  cases same

theorem Maintains.throw {error : ε} (allowed : fault error) :
    Maintains invariant fault (MonadExcept.throw error : FileAction ε α) := by
  intro files holds outcome after ran
  obtain ⟨rfl, rfl⟩ := throw_ran.mp ran
  refine ⟨holds, ?_⟩
  intro other same
  cases same
  exact allowed

theorem Establishes.orElseFail {action : FileAction Refusal α} {error : ε}
    (inner : Establishes files invariant (fun _ => fault error) action) :
    Establishes files invariant fault (action.orElseFail error) := by
  intro outcome after ran
  obtain ⟨result, here, rfl⟩ := orElseFail_ran ran
  obtain ⟨holds, allowed⟩ := inner here
  refine ⟨holds, ?_⟩
  intro other failed
  obtain ⟨refusal, refused, rfl⟩ := Outcome.mapError_eq_error.mp failed
  exact allowed refusal refused

theorem Maintains.orElseFail {action : FileAction Refusal α} {error : ε}
    (inner : Maintains invariant (fun _ => fault error) action) :
    Maintains invariant fault (action.orElseFail error) :=
  fun _ holds => (inner holds).orElseFail

theorem Maintains.forM {items : List α} {body : α → FileAction ε PUnit}
    (each : ∀ item ∈ items, Maintains invariant fault (body item)) :
    Maintains invariant fault (items.forM body) := by
  induction items with
  | nil => exact .pure _
  | cons item items induction =>
      apply Maintains.bind (each item List.mem_cons_self)
      intro _
      exact induction fun other listed =>
        each other (List.mem_cons_of_mem _ listed)

theorem Maintains.foldlM {items : List α} {body : β → α → FileAction ε β}
    {total : β}
    (each : ∀ total, ∀ item ∈ items,
      Maintains invariant fault (body total item)) :
    Maintains invariant fault (items.foldlM body total) := by
  induction items generalizing total with
  | nil => exact .pure _
  | cons item items induction =>
      rw [List.foldlM_cons]
      apply Maintains.bind (each total item List.mem_cons_self)
      intro next
      exact induction fun total other listed =>
        each total other (List.mem_cons_of_mem _ listed)

end WorkbookSite.FileAction

/-!
# Association lists

What is found in a list of keys with values.
-/

namespace WorkbookSite

theorem lookup_filter_fst {α β : Type} [BEq α] [LawfulBEq α]
    (keep : α → Bool) (entries : List (α × β)) (key : α) :
    (entries.filter fun entry => keep entry.1).lookup key =
      if keep key then entries.lookup key else none := by
  induction entries with
  | nil => simp
  | cons entry entries induction =>
      obtain ⟨stored, value⟩ := entry
      by_cases same : key = stored
      · subst same
        cases kept : keep key with
        | true => simp [kept]
        | false => simpa [kept] using induction
      · have differs : (key == stored) = false := beq_eq_false_iff_ne.mpr same
        cases kept : keep stored with
        | true => simpa [kept, List.lookup_cons, differs] using induction
        | false => simpa [kept, List.lookup_cons, differs] using induction

theorem isSome_lookup_iff {α β : Type} [BEq α] [LawfulBEq α]
    {entries : List (α × β)} {key : α} :
    (entries.lookup key).isSome = true ↔ key ∈ entries.map Prod.fst := by
  induction entries with
  | nil => simp
  | cons entry entries induction =>
      rw [List.lookup_cons, List.map_cons, List.mem_cons, ← induction]
      by_cases same : key = entry.1
      · simp [same]
      · simp [same, beq_false_of_ne same]

/-- Values that are left out are found nowhere else, as no key is there
twice. -/
theorem lookup_filter_snd {α β : Type} [BEq α] [LawfulBEq α]
    (keep : β → Bool) {entries : List (α × β)}
    (distinct : (entries.map Prod.fst).Nodup) (key : α) :
    (entries.filter fun entry => keep entry.2).lookup key =
      (entries.lookup key).filter keep := by
  induction entries with
  | nil => rfl
  | cons entry entries induction =>
      obtain ⟨stored, value⟩ := entry
      obtain ⟨fresh, distinct⟩ := List.nodup_cons.mp distinct
      have later := induction distinct
      by_cases same : key = stored
      · subst same
        have missing : entries.lookup key = none := by
          rw [← Option.not_isSome_iff_eq_none, isSome_lookup_iff]
          exact fresh
        cases kept : keep value <;> simp [kept, later, missing, Option.filter]
      · have differs : (key == stored) = false := beq_eq_false_iff_ne.mpr same
        cases kept : keep value <;>
          simp [kept, later, List.lookup_cons, differs]

theorem findSome?_lookup_congr {α β : Type} [BEq α] {keys : List α}
    {first second : List (α × β)}
    (same : ∀ key ∈ keys, first.lookup key = second.lookup key) :
    keys.findSome? (first.lookup ·) = keys.findSome? (second.lookup ·) := by
  induction keys with
  | nil => rfl
  | cons key keys induction =>
      rw [List.findSome?_cons, List.findSome?_cons,
        same key List.mem_cons_self,
        induction fun other member => same other (List.mem_cons_of_mem _ member)]

end WorkbookSite

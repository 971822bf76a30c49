import Mathlib.Data.List.Sublists
import WorkbookSite.Proofs.OutlineNesting
import WorkbookSite.Proofs.SheetPages

/-!
# Values that are stored

A page stores for each entry the values of its row that are not blank, each for
a locale of the page and in the order of the locales.  An entry without any
value is therefore blank in every locale, and an entry with a value is blank in
none, since every locale falls back to the others.
-/

namespace WorkbookSite

/-- The values of an entry are not empty, and they are stored for some of the
locales, in their order. -/
structure Entry.ValuesFit (entry : Entry) (locales : List String) : Prop where
  listed : (entry.values.map Prod.fst).Sublist locales
  filled : ∀ value ∈ entry.values, value.2 ≠ ""

namespace Entry

instance (entry : Entry) (locales : List String) :
    Decidable (entry.ValuesFit locales) :=
  decidable_of_iff ((entry.values.map Prod.fst).Sublist locales ∧
      ∀ value ∈ entry.values, value.2 ≠ "")
    ⟨fun ⟨listed, filled⟩ => ⟨listed, filled⟩,
      fun fit => ⟨fit.listed, fit.filled⟩⟩

variable {entry : Entry} {locales : List String}

theorem ValuesFit.ne_empty_of_lookup (fit : entry.ValuesFit locales)
    {locale value : String} (found : entry.values.lookup locale = some value) :
    value ≠ "" := by
  obtain ⟨before, after, stored, -⟩ := List.lookup_eq_some_iff.mp found
  exact fit.filled (locale, value) (by simp [stored])

theorem ValuesFit.isSome_findSome?_lookup (fit : entry.ValuesFit locales)
    (stored : entry.values ≠ []) :
    (locales.findSome? (entry.values.lookup ·)).isSome = true := by
  obtain ⟨value, values, stored⟩ := List.exists_cons_of_ne_nil stored
  have inLocales : value.1 ∈ locales :=
    fit.listed.subset (by simp [stored])
  rw [List.findSome?_isSome_iff]
  exact ⟨value.1, inLocales, by simp [stored]⟩

theorem valuesFit_root (locales : List String) :
    Entry.root.ValuesFit locales :=
  ⟨List.nil_sublist locales, List.forall_mem_nil _⟩

/-- Falling back, an entry is blank in a locale only if it is blank in all. -/
theorem ValuesFit.bestValue_eq_empty_iff (fit : entry.ValuesFit locales)
    (preferred : String) :
    entry.bestValue preferred locales = "" ↔ entry.values = [] := by
  constructor
  · intro blank
    rw [bestValue] at blank
    split at blank
    · rename_i value found
      exact absurd blank (fit.ne_empty_of_lookup found)
    · apply Decidable.byContradiction
      intro stored
      obtain ⟨text, fallback⟩ := Option.isSome_iff_exists.mp
        (fit.isSome_findSome?_lookup stored)
      obtain ⟨_, locale, _, _, found, _⟩ :=
        List.findSome?_eq_some_iff.mp fallback
      rw [fallback] at blank
      exact fit.ne_empty_of_lookup found blank
  · intro blank
    have noFallback : locales.findSome? (entry.values.lookup ·) = none :=
      List.findSome?_eq_none_iff.mpr fun locale _ => by simp [blank]
    rw [bestValue, noFallback]
    simp [blank]

end Entry

namespace Layout

variable {layout : Layout} {sheet : Sheet}

theorem rowValues_listed (layout : Layout) (sheet : Sheet) (row : Nat) :
    ((layout.rowValues sheet row).map Prod.fst).Sublist layout.locales := by
  rw [rowValues, localeColumns]
  generalize layout.attributeColumn + 1 = first
  induction layout.locales generalizing first with
  | nil => exact List.nil_sublist _
  | cons locale locales induction =>
      rw [List.zipIdx_cons, List.filterMap_cons]
      split
      · exact (induction (first + 1)).cons locale
      · rename_i value stored
        simp only at stored
        split at stored
        · cases stored
        · cases stored
          exact (induction (first + 1)).cons_cons locale

theorem valuesFit_of_entryAt? {row : Nat} {entry : Entry}
    (found : layout.entryAt? sheet row = some entry) :
    entry.ValuesFit layout.locales := by
  obtain ⟨column, -, rfl⟩ := Option.map_eq_some_iff.mp found
  constructor
  · exact layout.rowValues_listed sheet row
  · intro value member
    obtain ⟨place, -, stored⟩ := List.mem_filterMap.mp member
    simp only at stored
    split at stored
    · cases stored
    · rename_i filled
      cases stored
      exact filled

end Layout

theorem Page.valuesFit_of_parse {sheet : Sheet} {page : Page}
    (parsed : parse sheet = .ok page) :
    ∀ visited ∈ page.root.walk, visited.entry.ValuesFit page.locales := by
  obtain rfl := eq_page_of_parse parsed
  intro visited member
  have walked : visited.entry ∈ Entry.root :: sheet.entries := by
    rw [← Outline.walk_ofEntries]
    exact List.mem_map_of_mem member
  rcases List.mem_cons.mp walked with root | below
  · rw [root]
    exact Entry.valuesFit_root _
  · obtain ⟨row, -, found⟩ := List.mem_filterMap.mp below
    exact Layout.valuesFit_of_entryAt? found

end WorkbookSite

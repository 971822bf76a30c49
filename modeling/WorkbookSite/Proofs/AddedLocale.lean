import Mathlib.Data.List.Find
import WorkbookSite.Proofs.AssociationLists
import WorkbookSite.Proofs.HeaderCells
import WorkbookSite.Proofs.MappedOutlines
import WorkbookSite.Proofs.StoredValues

/-!
# A locale that is added

A translation is added to a sheet in the column right of the last locale.  As
long as each row that is given a value there has one in another locale too, the
other locales are rendered as before.  Without this condition a row that was
blank would no longer be: the other locales would fall back to the new value.
-/

namespace WorkbookSite

namespace Entry

/-- The entry without the values of a locale. -/
def forget (locale : String) (entry : Entry) : Entry :=
  { entry with values := entry.values.filter (·.1 != locale) }

theorem keepsPlace_forget (locale : String) :
    KeepsPlace (forget locale) where
  key_eq _ := rfl
  isAttribute_eq _ := rfl
  row_eq _ := rfl
  depth_eq _ := rfl

variable {entry : Entry} {locale preferred : String} {locales : List String}

theorem ValuesFit.forget (fit : entry.ValuesFit (locales ++ [locale]))
    (fresh : locale ∉ locales) :
    (entry.forget locale).ValuesFit locales := by
  constructor
  · have others : (locales ++ [locale]).filter (· != locale) = locales := by
      rw [List.filter_append, List.filter_eq_self.mpr]
      · simp
      · intro other member
        simpa using fun same : other = locale => fresh (same ▸ member)
    have kept := fit.listed.filter (· != locale)
    rw [others, List.filter_map] at kept
    exact kept
  · intro value member
    exact fit.filled value (List.mem_of_mem_filter member)

/-- A locale that no entry falls back to alone can be forgotten by the
others. -/
theorem ValuesFit.bestValue_forget
    (fit : entry.ValuesFit (locales ++ [locale])) (fresh : locale ∉ locales)
    (listed : preferred ∈ locales)
    (valued : (entry.forget locale).values = [] → entry.values = []) :
    (entry.forget locale).bestValue preferred locales =
      entry.bestValue preferred (locales ++ [locale]) := by
  have others := fit.forget fresh
  by_cases blank : (entry.forget locale).values = []
  · rw [(others.bestValue_eq_empty_iff preferred).mpr blank,
      (fit.bestValue_eq_empty_iff preferred).mpr (valued blank)]
  · have same : ∀ other ∈ locales, (entry.forget locale).values.lookup other =
        entry.values.lookup other := by
      intro other member
      rw [Entry.forget, lookup_filter_fst (· != locale), if_pos]
      simpa using fun same : other = locale => fresh (same ▸ member)
    rw [bestValue, bestValue, same preferred listed, List.findSome?_append,
      ← findSome?_lookup_congr same,
      Option.or_of_isSome (others.isSome_findSome?_lookup blank)]

end Entry

namespace Sheet

/-- The column right of the last locale. -/
def nextColumn (sheet : Sheet) : Nat :=
  sheet.attributeColumn + 1 + sheet.localeRun.length

/-- The second sheet has a further locale: it differs from the first one in the
next column only, where it has the code of the locale, a path, and values in
rows that also have a value in another locale.  The header cell after that
column is blank. -/
structure AddsLocale (sheet extended : Sheet) (locale : String) : Prop where
  name_eq : extended.name = sheet.name
  length_eq : extended.rows.length = sheet.rows.length
  cell_eq : ∀ row column, column ≠ sheet.nextColumn →
    extended.cell row column = sheet.cell row column
  code_eq : extended.cell 0 sheet.nextColumn = locale
  named : locale ≠ ""
  fresh : locale ∉ sheet.localeRun
  ends : sheet.cell 0 (sheet.nextColumn + 1) = ""
  pathed : extended.cell 1 sheet.nextColumn ≠ ""
  valued : ∀ row, 2 ≤ row → extended.cell row sheet.nextColumn ≠ "" →
    ∃ place < sheet.localeRun.length, sheet.localeCell row place ≠ ""

namespace AddsLocale

variable {sheet extended : Sheet} {locale : String}

theorem headerReads (added : sheet.AddsLocale extended locale)
    (header : sheet.HeaderFits) :
    extended.HeaderReads sheet.attributeColumn
      (sheet.localeRun ++ [locale]) := by
  obtain ⟨marked, first, named, listed, -⟩ := header.headerReads
  have before : ∀ column < sheet.nextColumn,
      extended.cell 0 column = sheet.cell 0 column :=
    fun column order => added.cell_eq 0 column (Nat.ne_of_lt order)
  simp only [nextColumn] at before
  constructor
  · rw [before _ (by omega), marked]
  · intro earlier order
    rw [before _ (by omega)]
    exact first earlier order
  · simp [named, added.named.symm]
  · intro place other found
    rw [List.getElem?_append] at found
    split at found
    · rename_i inside
      rw [before _ (by omega)]
      exact listed place other found
    · rename_i outside
      rw [List.getElem?_singleton] at found
      split at found
      · rename_i last
        obtain rfl := Option.some.inj found
        have same : place = sheet.localeRun.length := by omega
        rw [same]
        exact added.code_eq
      · cases found
  · have following := added.cell_eq 0 (sheet.nextColumn + 1) (by omega)
    rw [added.ends, nextColumn] at following
    simpa [Nat.add_assoc] using following

theorem layout_eq (added : sheet.AddsLocale extended locale)
    (header : sheet.HeaderFits) :
    extended.layout =
      ⟨sheet.attributeColumn, sheet.localeRun ++ [locale]⟩ := by
  obtain ⟨-, column, locales⟩ := headerReads_iff.mp (added.headerReads header)
  rw [layout, column, locales]

theorem localeCell_eq (added : sheet.AddsLocale extended locale)
    (header : sheet.HeaderFits) {row place : Nat}
    (inside : place < sheet.localeRun.length) :
    extended.localeCell row place = sheet.localeCell row place := by
  obtain ⟨-, column, -⟩ := headerReads_iff.mp (added.headerReads header)
  rw [localeCell, localeCell, column]
  apply added.cell_eq
  rw [nextColumn]
  omega

theorem inLayout (added : sheet.AddsLocale extended locale)
    (inLayout : sheet.InLayout) : extended.InLayout := by
  obtain ⟨filled, header, paths, keyed⟩ := inLayout
  obtain ⟨marked, column, locales⟩ :=
    headerReads_iff.mp (added.headerReads header)
  have before : ∀ row column, column ≤ sheet.attributeColumn →
      extended.cell row column = sheet.cell row column := by
    intro row column order
    apply added.cell_eq
    rw [nextColumn]
    omega
  constructor
  · rw [← List.length_pos_iff, added.length_eq]
    exact List.length_pos_iff.mpr filled
  · constructor
    · exact marked
    · rw [column]
      exact header.placed
    · rw [locales]
      simpa using header.localesDistinct.concat added.fresh
    · simp [locales]
  · constructor
    · rw [added.length_eq, before 1 0 (Nat.zero_le _)]
      exact paths.marked
    · intro place inside
      rw [locales, List.length_append, List.length_singleton] at inside
      rcases Nat.lt_succ_iff_lt_or_eq.mp inside with old | rfl
      · rw [added.localeCell_eq header old]
        exact paths.filled place old
      · rw [localeCell, column]
        exact added.pathed
  · intro row low high orphan
    rw [added.length_eq] at high
    apply keyed row low high
    obtain ⟨keyless, place, inside, value⟩ := orphan
    rw [column] at keyless
    refine ⟨fun column order => (before row column order) ▸
      keyless column order, ?_⟩
    rw [locales, List.length_append, List.length_singleton] at inside
    rcases Nat.lt_succ_iff_lt_or_eq.mp inside with old | rfl
    · exact ⟨place, old, added.localeCell_eq header old ▸ value⟩
    · rw [localeCell, column] at value
      exact added.valued row low value

theorem keyColumn?_eq (added : sheet.AddsLocale extended locale)
    (header : sheet.HeaderFits) (row : Nat) :
    extended.layout.keyColumn? extended row =
      sheet.layout.keyColumn? sheet row := by
  rw [added.layout_eq header, Layout.keyColumn?, Layout.keyColumn?, layout]
  apply List.find?_congr
  intro column member
  have inKeys : column < sheet.attributeColumn + 1 := List.mem_range.mp member
  have differs : column ≠ sheet.nextColumn := by
    rw [nextColumn]
    omega
  rw [added.cell_eq row column differs]

/-- The values of a row are those it had, and its value for the new locale. -/
theorem rowValues_eq (added : sheet.AddsLocale extended locale)
    (header : sheet.HeaderFits) (row : Nat) :
    extended.layout.rowValues extended row =
      sheet.layout.rowValues sheet row ++
        if extended.cell row sheet.nextColumn = "" then []
        else [(locale, extended.cell row sheet.nextColumn)] := by
  have columns : extended.layout.localeColumns =
      sheet.layout.localeColumns ++ [(locale, sheet.nextColumn)] := by
    rw [added.layout_eq header, Layout.localeColumns, List.zipIdx_append]
    rfl
  rw [Layout.rowValues, Layout.rowValues, columns, List.filterMap_append]
  congr 1
  · apply List.filterMap_congr
    rintro ⟨other, column⟩ member
    obtain ⟨-, bound⟩ := List.mk_mem_zipIdx_iff_le_and_getElem?_sub.mp member
    have inside := (List.getElem?_eq_some_iff.mp bound).1
    have differs : column ≠ sheet.nextColumn := by
      rw [nextColumn]
      simp only [layout] at inside
      omega
    simp only [added.cell_eq row column differs]
  · simp only [List.filterMap_cons, List.filterMap_nil]
    split <;> simp_all

theorem forget_rowValues (added : sheet.AddsLocale extended locale)
    (header : sheet.HeaderFits) (row : Nat) :
    (extended.layout.rowValues extended row).filter (·.1 != locale) =
      sheet.layout.rowValues sheet row := by
  have kept : (sheet.layout.rowValues sheet row).filter (·.1 != locale) =
      sheet.layout.rowValues sheet row := by
    rw [List.filter_eq_self]
    intro value member
    have listed : value.1 ∈ sheet.localeRun :=
      (sheet.layout.rowValues_listed sheet row).subset
        (List.mem_map_of_mem member)
    simpa using fun same : value.1 = locale => added.fresh (same ▸ listed)
  rw [added.rowValues_eq header, List.filter_append, kept]
  split <;> simp

theorem entryAt?_eq (added : sheet.AddsLocale extended locale)
    (header : sheet.HeaderFits) (row : Nat) :
    (extended.layout.entryAt? extended row).map (Entry.forget locale) =
      sheet.layout.entryAt? sheet row := by
  rw [Layout.entryAt?, Layout.entryAt?, added.keyColumn?_eq header,
    Option.map_map]
  apply Option.map_congr
  intro column found
  have inKeys : column < sheet.attributeColumn + 1 :=
    List.mem_range.mp (List.mem_of_find?_eq_some found)
  have differs : column ≠ sheet.nextColumn := by
    rw [nextColumn]
    omega
  have marker : extended.layout.attributeColumn =
      sheet.layout.attributeColumn := by
    rw [added.layout_eq header]
    rfl
  simp only [Function.comp_apply, Entry.forget, marker,
    added.cell_eq row column differs, added.forget_rowValues header]

theorem entries_eq (added : sheet.AddsLocale extended locale)
    (header : sheet.HeaderFits) :
    extended.entries.map (Entry.forget locale) = sheet.entries := by
  rw [entries, entries, List.map_filterMap, added.length_eq]
  simp only [added.entryAt?_eq header]

/-- A row without a value in the old locales has none in the new one. -/
theorem values_eq_nil (added : sheet.AddsLocale extended locale)
    (header : sheet.HeaderFits) {row : Nat} (low : 2 ≤ row) {entry : Entry}
    (found : extended.layout.entryAt? extended row = some entry)
    (blank : (entry.forget locale).values = []) : entry.values = [] := by
  obtain ⟨column, -, rfl⟩ := Option.map_eq_some_iff.mp found
  simp only [Entry.forget, added.forget_rowValues header] at blank ⊢
  have oldBlank := (Layout.rowValues_isEmpty_iff sheet.layout_describes row).mp
    (List.isEmpty_iff.mpr blank)
  rw [added.rowValues_eq header, blank, List.nil_append, if_pos]
  apply Decidable.byContradiction
  intro value
  obtain ⟨place, inside, old⟩ := added.valued row low value
  exact old (oldBlank place inside)

end AddsLocale

end Sheet

namespace Page

variable {sheet extended : Sheet} {locale : String} {page : Page}

theorem bestValue_forget_of_mem_walk
    (added : sheet.AddsLocale extended locale) (inLayout : sheet.InLayout)
    {preferred : String} (listed : preferred ∈ sheet.localeRun) :
    ∀ visited ∈ extended.page.root.walk,
      (visited.entry.forget locale).bestValue preferred sheet.localeRun =
        visited.entry.bestValue preferred (sheet.localeRun ++ [locale]) := by
  intro visited member
  have walked : visited.entry ∈ Entry.root :: extended.entries := by
    rw [← Outline.walk_ofEntries]
    exact List.mem_map_of_mem member
  rcases List.mem_cons.mp walked with root | below
  · rw [root]
    exact (Entry.valuesFit_root _).bestValue_forget added.fresh listed
      fun _ => rfl
  · obtain ⟨row, inRows, found⟩ := List.mem_filterMap.mp below
    have fit := Layout.valuesFit_of_entryAt? found
    rw [added.layout_eq inLayout.header] at fit
    exact fit.bestValue_forget added.fresh listed
      (added.values_eq_nil inLayout.header (List.mem_range'_1.mp inRows).1
        found)

/-- A sheet to which a locale is added is a page with this locale after the
others.  The others keep their paths, the outline differs in the values of the
new locale only, and what the others are rendered to, document or error, is
what it was. -/
theorem parse_of_addsLocale (added : sheet.AddsLocale extended locale)
    (parsed : parse sheet = .ok page) :
    ∃ page', parse extended = .ok page' ∧
      page'.locales = page.locales ++ [locale] ∧
      (∀ other ∈ page.locales, page'.path? other = page.path? other) ∧
      page'.root.mapEntries (Entry.forget locale) = page.root ∧
      ∀ other ∈ page.locales, ∀ placement,
        page'.render other placement = page.render other placement := by
  have inLayout := inLayout_of_parse parsed
  have header := inLayout.header
  have parsed' : parse extended = .ok extended.page :=
    parse_eq_ok_iff.mpr ⟨added.inLayout inLayout, rfl⟩
  obtain ⟨-, column, locales⟩ :=
    Sheet.headerReads_iff.mp (added.headerReads header)
  have forgotten : extended.page.root.mapEntries (Entry.forget locale) =
      sheet.page.root := by
    rw [Sheet.page, Sheet.page, ← added.entries_eq header,
      Outline.ofEntries_map (Entry.keepsPlace_forget locale) rfl]
  obtain rfl := eq_page_of_parse parsed
  refine ⟨extended.page, parsed', locales, ?_, forgotten, ?_⟩
  · intro other listed
    have old : other ∈ sheet.localeRun := listed
    rw [path?_of_parse parsed, path?_of_parse parsed', locales, if_pos old,
      if_pos (List.mem_append_left _ old), List.idxOf_append_of_mem old,
      added.localeCell_eq header (List.idxOf_lt_length_of_mem old)]
  · intro other listed placement
    have old : other ∈ sheet.localeRun := listed
    have same : extended.page.root.render other extended.page.locales =
        sheet.page.root.render other sheet.page.locales := by
      rw [← forgotten]
      symm
      apply Outline.render_mapEntries (Entry.keepsPlace_forget locale)
      intro visited member
      rw [← Outline.walk_eq_preorder] at member
      have unchanged :=
        bestValue_forget_of_mem_walk added inLayout old visited member
      rw [← locales] at unchanged
      exact unchanged
    have kept : extended.page.hasLocale other = true := by
      simp [hasLocale, Sheet.page, locales, old]
    have had : sheet.page.hasLocale other = true := by
      simp [hasLocale, Sheet.page, old]
    rw [render, render, if_pos kept, if_pos had, same]

/-- A page in two locales, one of which falls back to the other. -/
def bilingualSheet : Sheet :=
  ⟨"greeting",
    [["", "attribute", "en", "de"], ["path", "", "/en.html", "/de.html"],
     ["p", "", "", "hallo"], ["", "class", "wide"], ["br"]]⟩

def trilingualSheet : Sheet :=
  ⟨"greeting",
    [["", "attribute", "en", "de", "fr"],
     ["path", "", "/en.html", "/de.html", "/fr.html"],
     ["p", "", "", "hallo", "salut"], ["", "class", "wide", "", "large"],
     ["br"]]⟩

theorem addsLocale_trilingualSheet :
    bilingualSheet.AddsLocale trilingualSheet "fr" := by
  have next : bilingualSheet.nextColumn = 4 := by decide
  constructor
  case cell_eq =>
    intro row column differs
    rw [next] at differs
    rcases row with _ | _ | _ | _ | _ | row <;>
      rcases column with _ | _ | _ | _ | _ | column <;>
      first
        | rfl
        | exact absurd rfl differs
  case valued =>
    intro row low value
    rw [next] at value
    have old : bilingualSheet.localeCell row 0 ≠ "" ∨
        bilingualSheet.localeCell row 1 ≠ "" := by
      rcases row with _ | _ | _ | _ | _ | row
      · omega
      · omega
      · exact .inr (by decide)
      · exact .inl (by decide)
      · exact absurd rfl value
      · exact absurd rfl value
    rcases old with first | second
    · exact ⟨0, by decide, first⟩
    · exact ⟨1, by decide, second⟩
  all_goals decide

theorem parse_of_addsLocale_trilingualSheet :
    ∃ page page', parse bilingualSheet = .ok page ∧
      parse trilingualSheet = .ok page' ∧
      page'.locales = page.locales ++ ["fr"] ∧
      (∀ other ∈ page.locales, page'.path? other = page.path? other) ∧
      page'.root.mapEntries (Entry.forget "fr") = page.root ∧
      ∀ other ∈ page.locales, ∀ placement,
        page'.render other placement = page.render other placement := by
  have accepted : (parse bilingualSheet).toOption.isSome = true := by
    decide +kernel
  obtain ⟨page, found⟩ := Option.isSome_iff_exists.mp accepted
  have parsed := Outcome.eq_ok_of_toOption found
  obtain ⟨page', parsed', extends'⟩ :=
    parse_of_addsLocale addsLocale_trilingualSheet parsed
  exact ⟨page, page', parsed, parsed', extends'⟩

end Page

end WorkbookSite

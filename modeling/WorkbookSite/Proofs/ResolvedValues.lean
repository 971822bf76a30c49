import Mathlib.Data.List.Find
import WorkbookSite.Proofs.AssociationLists
import WorkbookSite.Proofs.OutlineNesting
import WorkbookSite.Proofs.SheetPages

/-!
# Values along a row

What a locale shows for an entry stands in the row of the entry: in the column
of the locale, or else in the leftmost column of a locale that is not blank.
This needs that no locale is listed twice, so that a locale has one column, and
that blank cells are not stored.  Cells in other columns never show up.
-/

namespace WorkbookSite

namespace Sheet

variable {sheet : Sheet} {row place : Nat}

/-- What the locale at a place of the header shows for a row: its own cell, or
else the leftmost cell of a locale that is not blank, or else the empty text. -/
inductive ResolvesTo (sheet : Sheet) (row place : Nat) : String → Prop where
  | own : sheet.localeCell row place ≠ "" →
      ResolvesTo sheet row place (sheet.localeCell row place)
  | fallback (other : Nat) : sheet.localeCell row place = "" →
      other < sheet.localeRun.length →
      (∀ earlier < other, sheet.localeCell row earlier = "") →
      sheet.localeCell row other ≠ "" →
      ResolvesTo sheet row place (sheet.localeCell row other)
  | blank : (∀ other < sheet.localeRun.length,
      sheet.localeCell row other = "") → ResolvesTo sheet row place ""

/-- A row resolves to one text. -/
theorem ResolvesTo.unique (inRun : place < sheet.localeRun.length)
    {first second : String} (resolves : sheet.ResolvesTo row place first)
    (resolves' : sheet.ResolvesTo row place second) : first = second := by
  cases resolves with
  | own filled =>
      cases resolves' with
      | own => rfl
      | fallback _ blank => exact absurd blank filled
      | blank blank => exact absurd (blank place inRun) filled
  | fallback other blank inside before found =>
      cases resolves' with
      | own filled => exact absurd blank filled
      | fallback other' _ inside' before' found' =>
          have same : other = other' := by
            apply Nat.le_antisymm
            · exact Nat.le_of_not_lt fun order => found' (before other' order)
            · exact Nat.le_of_not_lt fun order => found (before' other order)
          rw [same]
      | blank allBlank => exact absurd (allBlank other inside) found
  | blank allBlank =>
      cases resolves' with
      | own filled => exact absurd (allBlank place inRun) filled
      | fallback other _ inside _ found =>
          exact absurd (allBlank other inside) found
      | blank => rfl

/-- Only a row whose locales are all blank resolves to the empty text. -/
theorem resolvesTo_empty_iff :
    sheet.ResolvesTo row place "" ↔
      ∀ other < sheet.localeRun.length, sheet.localeCell row other = "" := by
  constructor
  · intro resolves
    generalize shown : "" = value at resolves
    cases resolves with
    | own filled => exact absurd shown.symm filled
    | fallback _ _ _ _ filled => exact absurd shown.symm filled
    | blank blank => exact blank
  · exact .blank

end Sheet

namespace Layout

variable {layout : Layout} {sheet : Sheet}

/-- The values of a row are the cells in the columns of the locales, less the
blank ones. -/
theorem rowValues_eq_filter (describes : layout.Describes sheet) (row : Nat) :
    layout.rowValues sheet row =
      ((sheet.localeRun.zipIdx (sheet.attributeColumn + 1)).map fun place =>
        (place.1, sheet.cell row place.2)).filter (·.2 != "") := by
  rw [rowValues, describes.localeColumns_eq, List.filter_map,
    ← List.filterMap_eq_map, List.filterMap_filter]
  apply List.filterMap_congr
  intro place _
  by_cases blank : sheet.cell row place.2 = "" <;> simp [blank]

theorem mem_rowValues_iff (describes : layout.Describes sheet) {row : Nat}
    {locale value : String} :
    (locale, value) ∈ layout.rowValues sheet row ↔
      value ≠ "" ∧ ∃ place, sheet.localeRun[place]? = some locale ∧
        sheet.localeCell row place = value := by
  rw [rowValues_eq_filter describes, List.mem_filter, List.mem_map,
    and_comm, bne_iff_ne]
  refine and_congr_right fun _ => ?_
  constructor
  · rintro ⟨⟨other, column⟩, listed, same⟩
    obtain ⟨rfl, rfl⟩ := Prod.mk.inj same
    obtain ⟨after, found⟩ :=
      List.mk_mem_zipIdx_iff_le_and_getElem?_sub.mp listed
    refine ⟨_, found, ?_⟩
    rw [Sheet.localeCell, Nat.add_sub_cancel' after]
  · rintro ⟨place, found, rfl⟩
    exact ⟨_, List.mk_add_mem_zipIdx_iff_getElem?.mpr found, rfl⟩

/-- A locale has the cell in its column, unless this cell is blank. -/
theorem lookup_rowValues (describes : layout.Describes sheet)
    (distinct : sheet.localeRun.Nodup) (row : Nat) {place : Nat}
    {locale : String} (found : sheet.localeRun[place]? = some locale) :
    (layout.rowValues sheet row).lookup locale =
      if sheet.localeCell row place = "" then none
      else some (sheet.localeCell row place) := by
  obtain ⟨inRun, rfl⟩ := List.getElem?_eq_some_iff.mp found
  have keys : ((sheet.localeRun.zipIdx (sheet.attributeColumn + 1)).map
      fun place => (place.1, sheet.cell row place.2)).map Prod.fst =
        sheet.localeRun := by
    rw [List.map_map]
    exact List.zipIdx_map_fst _ _
  rw [rowValues_eq_filter describes,
    lookup_filter_snd (· != "") (keys.symm ▸ distinct), lookup_zipIdx,
    if_pos (List.getElem_mem inRun), distinct.idxOf_getElem,
    Sheet.localeCell, Option.filter_some]
  simp only [bne_iff_ne, ne_eq, ite_not]

theorem lookup_rowValues_eq_none_iff (describes : layout.Describes sheet)
    (distinct : sheet.localeRun.Nodup) {row place : Nat} {locale : String}
    (found : sheet.localeRun[place]? = some locale) :
    (layout.rowValues sheet row).lookup locale = none ↔
      sheet.localeCell row place = "" := by
  rw [lookup_rowValues describes distinct row found]
  split <;> simp_all

/-- A row falls back to its leftmost cell that is not blank. -/
theorem leftmost_of_findSome? (describes : layout.Describes sheet)
    (distinct : sheet.localeRun.Nodup) {row : Nat} {value : String}
    (first : sheet.localeRun.findSome?
      ((layout.rowValues sheet row).lookup ·) = some value) :
    ∃ other < sheet.localeRun.length,
      (∀ earlier < other, sheet.localeCell row earlier = "") ∧
      sheet.localeCell row other ≠ "" ∧
      value = sheet.localeCell row other := by
  obtain ⟨before, locale, after, run, stored, none⟩ :=
    List.findSome?_eq_some_iff.mp first
  have placed : sheet.localeRun[before.length]? = some locale := by simp [run]
  rw [lookup_rowValues describes distinct row placed,
    Option.ite_none_left_eq_some] at stored
  obtain ⟨filled, written⟩ := stored
  refine ⟨before.length, by simp [run], ?_, filled,
    (Option.some.inj written).symm⟩
  intro earlier order
  have listed : sheet.localeRun[earlier]? = some before[earlier] := by
    rw [run, List.getElem?_append_left order, List.getElem?_eq_getElem order]
  exact (lookup_rowValues_eq_none_iff describes distinct listed).mp
    (none _ (List.getElem_mem order))

theorem blank_of_findSome?_eq_none (describes : layout.Describes sheet)
    (distinct : sheet.localeRun.Nodup) {row : Nat}
    (first : sheet.localeRun.findSome?
      ((layout.rowValues sheet row).lookup ·) = none) :
    ∀ other < sheet.localeRun.length, sheet.localeCell row other = "" := by
  intro other inside
  rw [List.findSome?_eq_none_iff] at first
  exact (lookup_rowValues_eq_none_iff describes distinct
    (List.getElem?_eq_getElem inside)).mp (first _ (List.getElem_mem inside))

end Layout

namespace Entry

/-- An entry with the values of a row shows in a locale what the row resolves
to. -/
theorem resolvesTo_bestValue {entry : Entry} {layout : Layout} {sheet : Sheet}
    (describes : layout.Describes sheet) (distinct : sheet.localeRun.Nodup)
    {row place : Nat} {locale : String}
    (stored : entry.values = layout.rowValues sheet row)
    (found : sheet.localeRun[place]? = some locale) :
    sheet.ResolvesTo row place (entry.bestValue locale sheet.localeRun) := by
  rw [bestValue, stored, Layout.lookup_rowValues describes distinct row found]
  by_cases blank : sheet.localeCell row place = ""
  · rw [if_pos blank]
    cases first : sheet.localeRun.findSome?
        ((layout.rowValues sheet row).lookup ·) with
    | none =>
        exact .blank
          (Layout.blank_of_findSome?_eq_none describes distinct first)
    | some value =>
        obtain ⟨other, inside, before, filled, rfl⟩ :=
          Layout.leftmost_of_findSome? describes distinct first
        exact .fallback other blank inside before filled
  · rw [if_neg blank]
    exact .own blank

end Entry

namespace Page

variable {sheet : Sheet} {page : Page}

/-- The entry of a row shows what the row resolves to, and nothing else. -/
theorem bestValue_eq_iff (parsed : parse sheet = .ok page) {row place : Nat}
    {entry : Entry} {locale : String}
    (found : sheet.layout.entryAt? sheet row = some entry)
    (listed : page.locales[place]? = some locale) (value : String) :
    entry.bestValue locale page.locales = value ↔
      sheet.ResolvesTo row place value := by
  have distinct := (inLayout_of_parse parsed).header.localesDistinct
  rw [locales_of_parse parsed] at listed ⊢
  have inRun := (List.getElem?_eq_some_iff.mp listed).1
  have stored : entry.values = sheet.layout.rowValues sheet row := by
    obtain ⟨column, -, rfl⟩ := Option.map_eq_some_iff.mp found
    rfl
  have resolves := Entry.resolvesTo_bestValue sheet.layout_describes distinct
    stored listed
  constructor
  · rintro rfl
    exact resolves
  · exact resolves.unique inRun

/-- The entries below the root of a page are those of the keyed rows of its
sheet.  An entry stores, for the locales of the page, the cells of its row that
are not blank.  What it shows in a locale is the cell of the locale, or else the
leftmost cell of a locale that is not blank, or else the empty text; so it shows
the empty text exactly if all locales are blank in the row. -/
theorem bestValue_of_parse (parsed : parse sheet = .ok page) :
    ∃ entries : List Entry,
      page.root.walk.map (·.entry) = .root :: entries ∧
      List.Forall₂ (fun row entry =>
        entry.StandsIn sheet row ∧
        (∀ locale value, (locale, value) ∈ entry.values ↔ value ≠ "" ∧
          ∃ place, page.locales[place]? = some locale ∧
            sheet.localeCell row place = value) ∧
        ∀ place locale, page.locales[place]? = some locale →
          (∀ value, entry.bestValue locale page.locales = value ↔
            sheet.ResolvesTo row place value) ∧
          (entry.bestValue locale page.locales = "" ↔
            ∀ other < page.locales.length, sheet.localeCell row other = ""))
        sheet.keyedRows entries := by
  rw [root_of_parse parsed]
  refine ⟨sheet.entries, Outline.walk_ofEntries _, ?_⟩
  refine sheet.entryAt?_entries.imp fun row entry found => ?_
  have stands := Layout.standsIn_of_readRow rfl
    (Layout.readRow_of_entryAt? found)
  have stored : entry.values = sheet.layout.rowValues sheet row := by
    obtain ⟨column, -, rfl⟩ := Option.map_eq_some_iff.mp found
    rfl
  refine ⟨stands, ?_, ?_⟩
  · intro locale value
    rw [stored, locales_of_parse parsed]
    exact Layout.mem_rowValues_iff sheet.layout_describes
  · intro place locale listed
    have shown := bestValue_eq_iff parsed found listed
    refine ⟨shown, (shown "").trans ?_⟩
    rw [locales_of_parse parsed]
    exact Sheet.resolvesTo_empty_iff

/-- A sheet with notes between the keys and the locales, and right of them. -/
def annotatedSheet : Sheet :=
  ⟨"annotated",
    [["", "", "attribute", "en", "de", "", "fr"], ["path", "", "", "/a", "/b"],
     ["body", "note", "", "", "", "note", "page"], ["", "p", "", "", "Tag"],
     ["", "", "id", "top"]]⟩

/-- No note shows up: the body is blank, and only the paragraph falls back. -/
theorem bestValue_annotatedSheet :
    ∃ page, parse annotatedSheet = .ok page ∧
      page.root.walk.map (·.entry.bestValue "en" page.locales) =
        ["", "", "Tag", "top"] ∧
      ∃ entries : List Entry,
        page.root.walk.map (·.entry) = .root :: entries ∧
        List.Forall₂ (fun row entry =>
          entry.StandsIn annotatedSheet row ∧
          (∀ locale value, (locale, value) ∈ entry.values ↔ value ≠ "" ∧
            ∃ place, page.locales[place]? = some locale ∧
              annotatedSheet.localeCell row place = value) ∧
          ∀ place locale, page.locales[place]? = some locale →
            (∀ value, entry.bestValue locale page.locales = value ↔
              annotatedSheet.ResolvesTo row place value) ∧
            (entry.bestValue locale page.locales = "" ↔
              ∀ other < page.locales.length,
                annotatedSheet.localeCell row other = ""))
          annotatedSheet.keyedRows entries := by
  have accepted : (parse annotatedSheet).toOption.map (fun page =>
      page.root.walk.map (·.entry.bestValue "en" page.locales)) =
        some ["", "", "Tag", "top"] := by decide +kernel
  obtain ⟨page, found, shown⟩ := Option.map_eq_some_iff.mp accepted
  have parsed := Outcome.eq_ok_of_toOption found
  exact ⟨page, parsed, shown, bestValue_of_parse parsed⟩

end Page

end WorkbookSite

import WorkbookSite.Proofs.OutlineNesting
import WorkbookSite.Proofs.SheetRows

/-!
# The outline of a page

The outline of a page holds the rows of its sheet, all of them, once each and
in their order, and nests each row below the nearest earlier row whose key
stands further left.  Rows may skip columns in any way.
-/

namespace WorkbookSite

namespace Page

theorem deep_of_standsIn {sheet : Sheet} {rows : List Nat}
    {entries : List Entry}
    (standing : List.Forall₂ (Entry.StandsIn sheet) rows entries) :
    ∀ entry ∈ entries, 0 < entry.depth := by
  intro entry member
  obtain ⟨_, _, column, stands⟩ := Entry.exists_row_of_mem standing member
  rw [stands.depth_eq]
  exact Nat.succ_pos column

theorem numbered_of_standsIn {sheet : Sheet} {rows : List Nat}
    {entries : List Entry}
    (standing : List.Forall₂ (Entry.StandsIn sheet) rows entries) :
    ∀ entry ∈ entries, 0 < entry.row := by
  intro entry member
  obtain ⟨_, _, _, stands⟩ := Entry.exists_row_of_mem standing member
  rw [stands.row_eq]
  exact Nat.succ_pos _

theorem walk_of_parse {sheet : Sheet} {page : Page}
    (parsed : parse sheet = .ok page) :
    ∃ entries, page.root.walk.map (·.entry) = .root :: entries ∧
      List.Forall₂ (Entry.StandsIn sheet) sheet.keyedRows entries := by
  obtain ⟨entries, rooted, standing⟩ := entries_of_parse parsed
  exact ⟨entries, by rw [rooted]; exact Outline.walk_ofEntries entries,
    standing⟩

/-- A walk through the outline of a page visits the rows from top to bottom,
the root before all of them. -/
theorem sorted_of_parse {sheet : Sheet} {page : Page}
    (parsed : parse sheet = .ok page) :
    page.root.walk.Pairwise (·.entry.row < ·.entry.row) := by
  obtain ⟨entries, walked, standing⟩ := walk_of_parse parsed
  rw [← List.pairwise_map (f := Outline.entry) (R := (·.row < ·.row)), walked]
  exact List.pairwise_cons.mpr ⟨numbered_of_standsIn standing,
    Entry.sorted_of_standsIn sheet.keyedRows_sorted standing⟩

/-- Below the root, a walk through the outline of a page visits the entries of
the keyed rows of the sheet from top to bottom.  An entry stands under the
nearest earlier one that lies less deep, or under the root if there is none,
and nowhere else. -/
theorem walk_root_of_parse {sheet : Sheet} {page : Page}
    (parsed : parse sheet = .ok page) :
    ∃ entries : List Entry,
      page.root.walk.map (·.entry) = .root :: entries ∧
        List.Forall₂ (Entry.StandsIn sheet) sheet.keyedRows entries ∧
        entries.Pairwise (·.row < ·.row) ∧
        ∀ before entry after, entries = before ++ entry :: after →
          ∀ parent, page.root.StandsUnder entry parent ↔
            parent = nearestShallower before entry.depth := by
  obtain ⟨entries, rooted, standing⟩ := entries_of_parse parsed
  have sorted := Entry.sorted_of_standsIn sheet.keyedRows_sorted standing
  refine ⟨entries, ?_, standing, sorted, ?_⟩
  · rw [rooted]
    exact Outline.walk_ofEntries entries
  · intro before entry after same parent
    subst same
    rw [rooted]
    apply Outline.standsUnder_ofEntries_iff
    · exact sorted.imp fun order same => by
        rw [same] at order
        exact Nat.lt_irrefl _ order
    · exact deep_of_standsIn standing

/-- A sheet whose rows skip a column and come back by two. -/
def skippingSheet : Sheet :=
  ⟨"skipping",
    [["", "", "", "attribute", "en"], ["path", "", "", "", "/index.html"],
     ["body"], ["", "", "em", "", "deep"], ["", "p", "", "", "flat"], [],
     ["", "", "", "class", "wide"], ["footer"]]⟩

theorem walk_root_skippingSheet :
    ∃ page, parse skippingSheet = .ok page ∧
      ∃ entries : List Entry,
        page.root.walk.map (·.entry) = .root :: entries ∧
          List.Forall₂ (Entry.StandsIn skippingSheet)
            skippingSheet.keyedRows entries ∧
          entries.Pairwise (·.row < ·.row) ∧
          ∀ before entry after, entries = before ++ entry :: after →
            ∀ parent, page.root.StandsUnder entry parent ↔
              parent = nearestShallower before entry.depth := by
  have accepted : (parse skippingSheet).toOption.isSome = true := by
    decide +kernel
  obtain ⟨page, found⟩ := Option.isSome_iff_exists.mp accepted
  have parsed := Outcome.eq_ok_of_toOption found
  exact ⟨page, parsed, walk_root_of_parse parsed⟩

end Page

end WorkbookSite

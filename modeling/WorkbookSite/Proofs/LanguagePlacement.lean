import WorkbookSite.Proofs.AssociationLists
import WorkbookSite.Proofs.RenderedRows

/-!
# Where the language is placed

A page is rendered alike for both places of its language: only the attributes
of the doctype and of the root differ.  The root is given a language unless the
first rows of the sheet, the attribute rows before any element, already hold
one.  They are only searched for the very name `lang`, although HTML does not
tell `lang` from `LANG`, so a root may end up with two languages.
-/

namespace WorkbookSite

open Markup (Element Document)

/-- HTML ignores the case of ASCII letters in the names of attributes. -/
def namesLanguage (name : String) : Bool :=
  Markup.lowercase name.toList == "lang".toList

/-- The attributes of a root that is given a language unless it has one. -/
def withLanguage (locale : String) (attributes : List (String × String)) :
    List (String × String) :=
  if attributes.any (namesLanguage ·.1) then attributes
  else ("lang", locale) :: attributes

namespace Page

theorem render_of_listed {page : Page} {locale : String}
    (placement : LangPlacement) (listed : locale ∈ page.locales) :
    page.render locale placement =
      (page.root.render locale page.locales).map
        (document placement locale) := by
  rw [render, if_pos (by simpa [hasLocale] using listed)]

/-- The attributes of the root are the attribute rows before the first element
row. -/
theorem attributes_of_root {sheet : Sheet} {locale : String}
    {order : List String} {entries : List Entry} {root : Element}
    (standing : List.Forall₂ (Entry.StandsIn sheet) sheet.keyedRows entries)
    (rendered : (Outline.ofEntries entries).render locale order = .ok root) :
    root.attributes = (entries.takeWhile (·.isAttribute)).map fun row =>
      (row.key, row.bestValue locale order) := by
  rw [Outline.ofEntries_eq_forest] at rendered
  obtain ⟨-, -, content, nested, -, -, rfl⟩ := Outline.render_eq_ok rendered
  have own := Outline.attributes_forest
    (attributesDeepest_of_standsIn standing)
  simp [Outline.renderAttributes, ← own]

theorem attributes_document_root (locale : String) (root : Element) :
    (document .root locale root).root.attributes =
      if "lang" ∈ root.attributes.map Prod.fst then root.attributes
      else ("lang", locale) :: root.attributes := by
  have searched : (root.attribute? "lang").isSome = true ↔
      "lang" ∈ root.attributes.map Prod.fst := by
    rw [Element.attribute?, isSome_lookup_iff]
  by_cases authored : "lang" ∈ root.attributes.map Prod.fst
  · rw [document, if_pos (searched.mpr authored), if_pos authored]
  · rw [document, if_neg (authored ∘ searched.mp), if_neg authored]

/-- The exact name is one way to name the language, so the two rules differ
only where it is missing and another way is used. -/
theorem eq_withLanguage_iff (locale : String)
    (attributes : List (String × String)) :
    (if "lang" ∈ attributes.map Prod.fst then attributes
      else ("lang", locale) :: attributes) = withLanguage locale attributes ↔
      ((∃ key ∈ attributes.map Prod.fst, namesLanguage key = true) →
        "lang" ∈ attributes.map Prod.fst) := by
  have named : (∃ key ∈ attributes.map Prod.fst, namesLanguage key = true) ↔
      attributes.any (namesLanguage ·.1) = true := by
    simp [List.any_eq_true]
  rw [withLanguage]
  by_cases authored : "lang" ∈ attributes.map Prod.fst
  · have any : ∃ key ∈ attributes.map Prod.fst, namesLanguage key = true :=
      ⟨"lang", authored, by decide⟩
    rw [if_pos authored, if_pos (named.mp any)]
    exact ⟨fun _ _ => authored, fun _ => rfl⟩
  · rw [if_neg authored]
    by_cases any : ∃ key ∈ attributes.map Prod.fst, namesLanguage key = true
    · rw [if_pos (named.mp any)]
      constructor
      · intro same
        exact absurd same (List.cons_ne_self _ _)
      · intro spelled
        exact absurd (spelled any) authored
    · rw [if_neg (any ∘ named.mpr)]
      exact ⟨fun _ found => absurd found any, fun _ => rfl⟩

/-- A page that parses is rendered for both places of the language, or for
neither one and with the same error.  The two documents have the same root up
to its attributes: those rendered for the doctype are the first rows of the
sheet, and the language is put before them unless one of them is called `lang`.
This respects a language of any spelling just when there is none, or one that
is called `lang`. -/
theorem render_placements {sheet : Sheet} {page : Page} {locale : String}
    (parsed : parse sheet = .ok page) (listed : locale ∈ page.locales) :
    (∃ error, page.render locale .doctype = .error error ∧
      page.render locale .root = .error error) ∨
    ∃ root placed : Element,
      page.render locale .doctype =
          .ok { doctype := ⟨"html", [("lang", locale)]⟩, root := root } ∧
        page.render locale .root =
          .ok { doctype := ⟨"html", []⟩, root := placed } ∧
        placed.name = root.name ∧ placed.children = root.children ∧
        List.Forall₂ (Entry.StandsIn sheet) sheet.keyedRows sheet.entries ∧
        (root.attributes =
          (sheet.entries.takeWhile (·.isAttribute)).map fun row =>
            (row.key, row.bestValue locale page.locales)) ∧
        (placed.attributes =
          if "lang" ∈ root.attributes.map Prod.fst then root.attributes
          else ("lang", locale) :: root.attributes) ∧
        (placed.attributes = withLanguage locale root.attributes ↔
          ((∃ key ∈ root.attributes.map Prod.fst, namesLanguage key = true) →
            "lang" ∈ root.attributes.map Prod.fst)) := by
  rw [render_of_listed .doctype listed, render_of_listed .root listed]
  cases rendered : page.root.render locale page.locales with
  | error error => exact .inl ⟨error, rfl, rfl⟩
  | ok root =>
      right
      have placed := attributes_document_root locale root
      refine ⟨root, (document .root locale root).root, rfl, ?_, ?_, ?_,
        sheet.standsIn_entries, ?_, placed, ?_⟩
      · simp only [Except.map, document]
        split <;> rfl
      · rw [document]
        split <;> rfl
      · rw [document]
        split <;> rfl
      · rw [root_of_parse parsed] at rendered
        exact attributes_of_root sheet.standsIn_entries rendered
      · rw [placed]
        exact eq_withLanguage_iff locale root.attributes

/-- The first rows of the sheet hold a language and a class. -/
def britishSheet : Sheet :=
  ⟨"british",
    [["", "", "attribute", "en", "de"], ["path", "", "", "/en", "/de"],
     ["", "", "class", "wide"], ["", "", "lang", "en-GB", "de-AT"], [],
     ["body"], ["", "p", "", "a <b>b</b>"]]⟩

/-- The language of the sheet stays alone, in both documents. -/
theorem render_placements_britishSheet :
    ∃ page, parse britishSheet = .ok page ∧ "de" ∈ page.locales ∧
      ∃ root placed : Element,
        root.attributes = [("class", "wide"), ("lang", "de-AT")] ∧
        placed.attributes = [("class", "wide"), ("lang", "de-AT")] ∧
        page.render "de" .doctype =
            .ok { doctype := ⟨"html", [("lang", "de")]⟩, root := root } ∧
          page.render "de" .root =
            .ok { doctype := ⟨"html", []⟩, root := placed } ∧
          placed.name = root.name ∧ placed.children = root.children ∧
          List.Forall₂ (Entry.StandsIn britishSheet) britishSheet.keyedRows
            britishSheet.entries ∧
          (root.attributes =
            (britishSheet.entries.takeWhile (·.isAttribute)).map fun row =>
              (row.key, row.bestValue "de" page.locales)) ∧
          (placed.attributes =
            if "lang" ∈ root.attributes.map Prod.fst then root.attributes
            else ("lang", "de") :: root.attributes) ∧
          (placed.attributes = withLanguage "de" root.attributes ↔
            ((∃ key ∈ root.attributes.map Prod.fst,
              namesLanguage key = true) →
                "lang" ∈ root.attributes.map Prod.fst)) := by
  have accepted : (parse britishSheet).toOption.map (fun page =>
      (page.locales,
        (page.render "de" .doctype).toOption.map (·.root.attributes))) =
      some (["en", "de"], some [("class", "wide"), ("lang", "de-AT")]) := by
    decide +kernel
  obtain ⟨page, found, shown⟩ := Option.map_eq_some_iff.mp accepted
  obtain ⟨locales, rendered⟩ := Prod.mk.inj shown
  have parsed := Outcome.eq_ok_of_toOption found
  have listed : "de" ∈ page.locales := by simp [locales]
  rcases render_placements parsed listed with
    ⟨error, failed, -⟩ |
      ⟨root, placed, inDoctype, inRoot, named, below, stands, rows, given,
        respects⟩
  · rw [failed] at rendered
    cases rendered
  · have own : root.attributes = [("class", "wide"), ("lang", "de-AT")] := by
      rw [inDoctype] at rendered
      exact Option.some.inj rendered
    have kept : placed.attributes = [("class", "wide"), ("lang", "de-AT")] := by
      rw [given, own, if_pos (by decide)]
    exact ⟨page, parsed, listed, root, placed, own, kept, inDoctype, inRoot,
      named, below, stands, rows, given, respects⟩

/-- The first row of the sheet holds a language in other letters. -/
def mixedCaseSheet : Sheet :=
  ⟨"mixed-case",
    [["", "attribute", "en"], ["path", "", "/index.html"],
     ["", "lANG", "fr"], ["body"]]⟩

/-- A language whose name is written in other letters does not count as one, and
the root is given a second language. -/
theorem two_languages_mixedCaseSheet :
    ((parse mixedCaseSheet).toOption.bind fun page =>
        (page.render "en" .doctype).toOption.map (·.root.attributes)) =
        some [("lANG", "fr")] ∧
      ((parse mixedCaseSheet).toOption.bind fun page =>
        (page.render "en" .root).toOption.map (·.root.attributes)) =
        some [("lang", "en"), ("lANG", "fr")] ∧
      withLanguage "en" [("lANG", "fr")] = [("lANG", "fr")] := by
  decide +kernel

end Page

end WorkbookSite

import Mathlib.Data.List.Forall2
import WorkbookSite.Proofs.Outcomes
import WorkbookSite.Site.Build

/-!
# Rendered documents

A site is rendered just when each page can be rendered in each of its locales,
each document is given the names of a file, and no two documents are given the
same names.
-/

namespace WorkbookSite

/-- The names of the file that a document is written to. -/
def RenderedDocument.names (document : RenderedDocument) : List String :=
  (Path.innerNames? ⟨document.path⟩).getD []

namespace Site

variable {placement : LangPlacement} {owners : Owners}
  {documents : List RenderedDocument}

/-- The document is that of the page in the locale, and its path names a file
that stays inside the output directory. -/
structure Renders (placement : LangPlacement) (variant : Page × String)
    (document : RenderedDocument) : Prop where
  page : document.page = variant.1.name
  locale : document.locale = variant.2
  path : document.path = (variant.1.path? variant.2).getD ""
  inner : Path.innerNames? ⟨document.path⟩ = some document.names
  rendered : variant.1.render variant.2 placement = .ok document.document

/-- The files differ from each other and are not taken yet. -/
def Untaken (owners : Owners) (files : List (List String)) : Prop :=
  files.Nodup ∧ ∀ names ∈ files, owners.lookup names = none

theorem untaken_cons_iff {names : List String} {owner : String}
    {files : List (List String)} :
    Untaken owners (names :: files) ↔
      owners.lookup names = none ∧
        Untaken ((names, owner) :: owners) files := by
  rw [Untaken, Untaken, List.nodup_cons, List.forall_mem_cons]
  constructor
  · intro untaken
    obtain ⟨⟨other, distinct⟩, free, each⟩ := untaken
    refine ⟨free, distinct, ?_⟩
    intro later listed
    have differs : later ≠ names := by
      rintro rfl
      exact other listed
    rw [List.lookup_cons, beq_eq_false_iff_ne.mpr differs]
    exact each later listed
  · intro untaken
    obtain ⟨free, distinct, each⟩ := untaken
    have separate : ∀ later ∈ files,
        later ≠ names ∧ owners.lookup later = none := by
      intro later listed
      have found := each later listed
      rw [List.lookup_cons] at found
      cases same : later == names with
      | true =>
          rw [same] at found
          cases found
      | false =>
          rw [same] at found
          exact ⟨beq_eq_false_iff_ne.mp same, found⟩
    refine ⟨⟨?_, distinct⟩, free, ?_⟩
    · intro listed
      exact (separate names listed).1 rfl
    · intro later listed
      exact (separate later listed).2

theorem renderLocale_eq_ok {page : Page} {locale : String}
    {document : RenderedDocument} {taken : Owners} :
    renderLocale placement page owners locale = .ok (document, taken) ↔
      Renders placement (page, locale) document ∧
        owners.lookup document.names = none ∧
        taken = (document.names, ownerName page locale) :: owners := by
  rw [renderLocale]
  constructor
  · intro rendered
    simp only at rendered
    split at rendered
    · cases rendered
    · rename_i names inner
      split at rendered
      · cases rendered
      · rename_i free
        split at rendered
        · cases rendered
        · rename_i content succeeded
          cases rendered
          have same : RenderedDocument.names ⟨page.name, locale,
              (page.path? locale).getD "", content⟩ = names := by
            rw [RenderedDocument.names, inner, Option.getD_some]
          rw [same]
          refine ⟨⟨rfl, rfl, rfl, ?_, succeeded⟩, free, rfl⟩
          rw [same]
          exact inner
  · intro expected
    obtain ⟨⟨named, here, path, inner, rendered⟩, free, rfl⟩ := expected
    rw [path] at inner
    simp only at inner rendered
    simp only [inner, free, rendered, Except.ok.injEq, Prod.mk.injEq, and_true]
    obtain ⟨_, _, _, _⟩ := document
    cases named
    cases here
    cases path
    rfl

theorem renderLocales_eq_ok {variants : List (Page × String)} :
    renderLocales placement owners variants = .ok documents ↔
      List.Forall₂ (Renders placement) variants documents ∧
        Untaken owners (documents.map RenderedDocument.names) := by
  induction variants generalizing owners documents with
  | nil =>
      rw [renderLocales, Except.ok.injEq, List.forall₂_nil_left_iff]
      constructor
      · rintro rfl
        exact ⟨rfl, List.nodup_nil, List.forall_mem_nil _⟩
      · intro expected
        exact expected.1.symm
  | cons variant variants induction =>
      obtain ⟨page, locale⟩ := variant
      rw [renderLocales, Outcome.bind_eq_ok]
      constructor
      · intro rendered
        obtain ⟨⟨document, taken⟩, here, rest⟩ := rendered
        obtain ⟨others, later, same⟩ := Outcome.bind_eq_ok.mp rest
        cases same
        obtain ⟨first, free, rfl⟩ := renderLocale_eq_ok.mp here
        obtain ⟨each, untaken⟩ := induction.mp later
        exact ⟨.cons first each, untaken_cons_iff.mpr ⟨free, untaken⟩⟩
      · intro expected
        obtain ⟨each, untaken⟩ := expected
        cases each with
        | cons first each =>
            obtain ⟨free, untaken⟩ := untaken_cons_iff.mp untaken
            refine ⟨(_, _), renderLocale_eq_ok.mpr ⟨first, free, rfl⟩, ?_⟩
            exact Outcome.bind_eq_ok.mpr
              ⟨_, induction.mpr ⟨each, untaken⟩, rfl⟩

/-- A site is rendered just when every variant of its pages is, each to a file
of its own. -/
theorem render_eq_ok {site : Site} :
    site.render placement = .ok documents ↔
      List.Forall₂ (Renders placement) site.variants documents ∧
        (documents.map RenderedDocument.names).Nodup := by
  rw [render, renderLocales_eq_ok, Untaken]
  simp

theorem Renders.of_mem {variants : List (Page × String)}
    {document : RenderedDocument}
    (rendered : List.Forall₂ (Renders placement) variants documents)
    (listed : document ∈ documents) :
    ∃ variant ∈ variants, Renders placement variant document := by
  induction rendered with
  | nil => cases listed
  | @cons variant first variants others renders _ induction =>
      rcases List.mem_cons.mp listed with rfl | later
      · exact ⟨variant, List.mem_cons_self, renders⟩
      · obtain ⟨found, there, renders⟩ := induction later
        exact ⟨found, List.mem_cons_of_mem _ there, renders⟩

theorem Renders.inner_of_mem {variants : List (Page × String)}
    (rendered : List.Forall₂ (Renders placement) variants documents) :
    ∀ document ∈ documents,
      Path.innerNames? ⟨document.path⟩ = some document.names := by
  intro document listed
  obtain ⟨variant, -, renders⟩ := Renders.of_mem rendered listed
  exact renders.inner

end Site

theorem Build.prepare_eq_ok [WorkbookReader] {files : FileSystem}
    {settings : BuildSettings} {site : Site} {documents : List RenderedDocument} :
    prepare files settings = .ok (site, documents) ↔
      load files settings = .ok site ∧
        List.Forall₂ (Site.Renders settings.lang) site.variants documents ∧
        (documents.map RenderedDocument.names).Nodup := by
  rw [← Site.render_eq_ok, prepare, Outcome.bind_eq_ok]
  constructor
  · intro prepared
    obtain ⟨loaded, here, rest⟩ := prepared
    obtain ⟨rendered, each, same⟩ := Outcome.bind_eq_ok.mp rest
    cases same
    exact ⟨here, each⟩
  · intro prepared
    obtain ⟨here, each⟩ := prepared
    exact ⟨site, here, Outcome.bind_eq_ok.mpr ⟨documents, each, rfl⟩⟩

end WorkbookSite

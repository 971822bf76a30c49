import Mathlib.Data.List.Induction
import Mathlib.Data.List.Nodup
import WorkbookSite.Site.Pages

/-!
# Growing sites

A site takes in one source after the other.  A source that cannot be read leaves
it as it is, and one with a sheet that is no page adds the pages before that
sheet and fails.  So no page is ever lost or moved, and the locales that a site
lists only get more at their end.
-/

namespace WorkbookSite

/-- A source that a site takes in, and its sheets or why there are none. -/
structure OpenedSource where
  path : Path
  sheets : Except SheetError (List Sheet)

/-- Lists a locale unless it is listed already. -/
def listLocale (listed : List String) (locale : String) : List String :=
  if locale ∈ listed then listed else listed ++ [locale]

/-- The locales of `all`, each listed once and in the order of their first
occurrences. -/
structure FirstOccurrences (listed all : List String) : Prop where
  distinct : listed.Nodup
  complete : ∀ locale, locale ∈ listed ↔ locale ∈ all
  ordered : listed.Pairwise fun first second =>
    all.idxOf first < all.idxOf second

theorem FirstOccurrences.nil : FirstOccurrences [] [] :=
  ⟨List.nodup_nil, fun _ => Iff.rfl, List.Pairwise.nil⟩

theorem FirstOccurrences.next {listed all : List String}
    (first : FirstOccurrences listed all) (locale : String) :
    FirstOccurrences (listLocale listed locale) (all ++ [locale]) := by
  have kept : listed.Pairwise fun one other =>
      (all ++ [locale]).idxOf one < (all ++ [locale]).idxOf other := by
    refine first.ordered.imp_of_mem fun {one other} hasOne hasOther before => ?_
    rw [List.idxOf_append_of_mem ((first.complete one).mp hasOne),
      List.idxOf_append_of_mem ((first.complete other).mp hasOther)]
    exact before
  by_cases known : locale ∈ listed
  · rw [listLocale, if_pos known]
    refine ⟨first.distinct, fun other => ?_, kept⟩
    rw [List.mem_append, List.mem_singleton, first.complete]
    constructor
    · exact Or.inl
    · rintro (old | rfl)
      · exact old
      · exact (first.complete other).mp known
  · have new : locale ∉ all :=
      fun old => known ((first.complete locale).mpr old)
    rw [listLocale, if_neg known]
    refine ⟨?_, fun other => ?_, ?_⟩
    · exact List.nodup_append_comm.mp
        (List.nodup_cons.mpr ⟨known, first.distinct⟩)
    · rw [List.mem_append, List.mem_append, first.complete]
    · refine List.pairwise_append.mpr
        ⟨kept, List.pairwise_singleton _ _, fun old hasOld last isLast => ?_⟩
      obtain rfl := List.mem_singleton.mp isLast
      have old' := (first.complete old).mp hasOld
      have oldAt := List.idxOf_lt_length_of_mem old'
      rw [List.idxOf_append_of_mem old', List.idxOf_append_of_notMem new]
      omega

theorem firstOccurrences_foldl (all : List String) :
    FirstOccurrences (all.foldl listLocale []) all := by
  induction all using List.reverseRecOn with
  | nil => exact .nil
  | append_singleton all locale induction =>
      rw [List.foldl_append]
      exact induction.next locale

theorem prefix_foldl_listLocale (listed locales : List String) :
    listed <+: locales.foldl listLocale listed := by
  induction locales generalizing listed with
  | nil => exact List.prefix_refl listed
  | cons locale locales induction =>
      have step : listed <+: listLocale listed locale := by
        rw [listLocale]
        split
        · exact List.prefix_refl listed
        · exact List.prefix_append listed [locale]
      exact step.trans (induction (listLocale listed locale))

/-- The pages of the sheets, which are all pages. -/
def ParsedAs (sheets : List Sheet) (pages : List Page) : Prop :=
  List.Forall₂ (fun sheet page => Page.parse sheet = .ok page) sheets pages

/-- `start` is the longest start of the list of sheets that has only pages. -/
structure LeadingPages (sheets start : List Sheet) (pages : List Page) :
    Prop where
  leads : start <+: sheets
  parsed : ParsedAs start pages
  longest : ∀ other, other <+: sheets →
    (∀ sheet ∈ other, ∃ page, Page.parse sheet = .ok page) → other <+: start

namespace Site

theorem locales_eq_foldl (site : Site) :
    site.locales =
      (site.pages.flatMap (·.page.locales)).foldl listLocale [] := by
  rw [List.foldl_flatMap]
  rfl

theorem firstOccurrences_locales (site : Site) :
    FirstOccurrences site.locales (site.pages.flatMap (·.page.locales)) := by
  rw [locales_eq_foldl]
  exact firstOccurrences_foldl _

theorem locales_prefix_of_pages {earlier later : Site}
    (grown : earlier.pages <+: later.pages) :
    earlier.locales <+: later.locales := by
  obtain ⟨added, split⟩ := grown
  rw [locales_eq_foldl, locales_eq_foldl, ← split, List.flatMap_append,
    List.foldl_append]
  exact prefix_foldl_listLocale _ _

/-- The reading of sheets ends behind the last one, or before the first one
that is no page. -/
theorem parseSheets_cases (sheets : List Sheet) :
    (∃ pages, parseSheets sheets = (pages, none) ∧
      ParsedAs sheets pages) ∨
    ∃ start sheet others pages cause,
      sheets = start ++ sheet :: others ∧
      parseSheets sheets = (pages, some cause) ∧
      ParsedAs start pages ∧
      Page.parse sheet = .error cause := by
  induction sheets with
  | nil => exact .inl ⟨[], rfl, .nil⟩
  | cons sheet sheets induction =>
      cases outcome : Page.parse sheet with
      | error cause =>
          exact .inr ⟨[], sheet, sheets, [], cause, rfl,
            by simp only [parseSheets, outcome], .nil, outcome⟩
      | ok page =>
          rcases induction with ⟨pages, reads, parsed⟩ |
            ⟨start, last, others, pages, cause, split, reads, parsed, noPage⟩
          · exact .inl ⟨page :: pages,
              by simp only [parseSheets, outcome, reads], .cons outcome parsed⟩
          · exact .inr ⟨sheet :: start, last, others, page :: pages, cause,
              congrArg (sheet :: ·) split,
              by simp only [parseSheets, outcome, reads],
              .cons outcome parsed, noPage⟩

end Site

theorem LeadingPages.all {sheets : List Sheet} {pages : List Page}
    (parsed : ParsedAs sheets pages) : LeadingPages sheets sheets pages :=
  ⟨List.prefix_refl sheets, parsed, fun _ leads _ => leads⟩

theorem LeadingPages.upTo {start others : List Sheet} {sheet : Sheet}
    {pages : List Page} {cause : LayoutError}
    (parsed : ParsedAs start pages)
    (noPage : Page.parse sheet = .error cause) :
    LeadingPages (start ++ sheet :: others) start pages := by
  have leads : start <+: start ++ sheet :: others :=
    List.prefix_append start (sheet :: others)
  refine ⟨leads, parsed, fun other otherLeads allPages => ?_⟩
  rcases List.prefix_or_prefix_of_prefix otherLeads leads with shorter | longer
  · exact shorter
  · obtain ⟨more, rfl⟩ := longer
    cases more with
    | nil => simpa only [List.append_nil] using List.prefix_refl start
    | cons next more =>
        have same : next = sheet :=
          (List.cons_prefix_cons.mp
            ((List.prefix_append_right_inj start).mp otherLeads)).1
        obtain ⟨page, isPage⟩ := allPages next
          (List.mem_append_right start List.mem_cons_self)
        rw [same, noPage] at isPage
        cases isPage

namespace Site

/-- Takes in a source, and answers with the number of its sheets. -/
def takeIn (site : Site) (source : OpenedSource) :
    Site × Except SiteError Nat :=
  site.addSource source.path source.sheets

/-- The site after taking in the sources one after the other, whatever the
answers are. -/
def addSources (site : Site) (sources : List OpenedSource) : Site :=
  sources.foldl (fun site source => (site.takeIn source).1) site

/-- The next site has the pages of the leading sheets behind those of the site,
and the answer is the number of the sheets, or what is wrong with the first
sheet that is no page. -/
structure Takes (site : Site) (path : Path) (sheets : List Sheet) (next : Site)
    (answer : Except SiteError Nat) (start : List Sheet) (pages : List Page) :
    Prop where
  leading : LeadingPages sheets start pages
  added : next.pages = site.pages ++ pages.map (⟨path, ·⟩)
  counted : ∀ count, answer = .ok count ↔
    start = sheets ∧ count = sheets.length
  failed : ∀ sheet others, sheets = start ++ sheet :: others →
    ∃ cause, Page.parse sheet = .error cause ∧
      answer = .error (.layout path cause)

theorem addSheets_takes (site : Site) (path : Path) (sheets : List Sheet) :
    ∃ start pages, site.Takes path sheets (site.addSheets path sheets).1
      (site.addSheets path sheets).2 start pages := by
  rcases parseSheets_cases sheets with ⟨pages, reads, parsed⟩ |
    ⟨start, sheet, others, pages, cause, rfl, reads, parsed, noPage⟩
  · have taken : site.addSheets path sheets =
        (⟨site.pages ++ pages.map (⟨path, ·⟩)⟩, .ok sheets.length) := by
      simp only [addSheets, reads]
    rw [taken]
    refine ⟨sheets, pages, .all parsed, rfl, fun count => ?_, ?_⟩
    · simp only [Except.ok.injEq, true_and, eq_comm]
    · intro sheet others split
      cases List.self_eq_append_right.mp split
  · have taken : site.addSheets path (start ++ sheet :: others) =
        (⟨site.pages ++ pages.map (⟨path, ·⟩)⟩,
          .error (.layout path cause)) := by
      simp only [addSheets, reads]
    rw [taken]
    refine ⟨start, pages, .upTo parsed noPage, rfl, fun count => ?_, ?_⟩
    · constructor
      · intro answered
        cases answered
      · rintro ⟨whole, -⟩
        cases List.self_eq_append_right.mp whole
    · intro first rest split
      obtain ⟨rfl, -⟩ := List.cons.inj (List.append_cancel_left split)
      exact ⟨cause, noPage, rfl⟩

theorem addSources_concat (site : Site) (sources : List OpenedSource)
    (source : OpenedSource) :
    site.addSources (sources ++ [source]) =
      ((site.addSources sources).takeIn source).1 := by
  rw [addSources, List.foldl_append]
  rfl

theorem pages_prefix_takeIn (site : Site) (source : OpenedSource) :
    site.pages <+: (site.takeIn source).1.pages := by
  obtain ⟨path, sheets⟩ := source
  cases sheets with
  | error cause => exact List.prefix_refl site.pages
  | ok sheets =>
      obtain ⟨_, pages, takes⟩ := site.addSheets_takes path sheets
      exact ⟨pages.map (⟨path, ·⟩), takes.added.symm⟩

theorem pages_prefix_addSources (site : Site) (sources : List OpenedSource) :
    site.pages <+: (site.addSources sources).pages := by
  induction sources generalizing site with
  | nil => exact List.prefix_refl site.pages
  | cons source sources induction =>
      exact (site.pages_prefix_takeIn source).trans (induction _)

end Site

section Files

variable [WorkbookReader]

/-- The workbook file as a source. -/
def OpenedSource.ofFile (file : Path × Content) : OpenedSource :=
  ⟨file.1, WorkbookReader.sheets file.1 file.2⟩

namespace Site

/-- What is loaded from files is what their sources add up to. -/
theorem addSources_of_addFiles {site loaded : Site}
    {files : List (Path × Content)} (adds : site.addFiles files = .ok loaded) :
    loaded = site.addSources (files.map .ofFile) := by
  induction files generalizing site with
  | nil =>
      cases adds
      rfl
  | cons file others induction =>
      rw [addFiles] at adds
      rw [List.map_cons, addSources, List.foldl_cons, takeIn,
        OpenedSource.ofFile]
      rcases outcome : site.addSource file.1
          (WorkbookReader.sheets file.1 file.2) with ⟨next, answer | count⟩
      · rw [outcome] at adds
        cases adds
      · rw [outcome] at adds
        exact induction adds

/-- A site grows with every source by the pages of its leading sheets, also
where the source fails, and lists the locales of its pages in the order of their
first occurrences, so that the locales listed at any time stay where they are.
Loading files takes in one source for each of them. -/
theorem addSources_grows (site : Site) (earlier : List OpenedSource) :
    (∀ path sheets, ∃ start pages,
      (site.addSources earlier).Takes path sheets
        (site.addSources (earlier ++ [⟨path, .ok sheets⟩]))
        ((site.addSources earlier).takeIn ⟨path, .ok sheets⟩).2
        start pages) ∧
    (∀ path cause,
      site.addSources (earlier ++ [⟨path, .error cause⟩]) =
          site.addSources earlier ∧
        ((site.addSources earlier).takeIn ⟨path, .error cause⟩).2 =
          .error (.workbook ⟨path, cause⟩)) ∧
    FirstOccurrences (site.addSources earlier).locales
      ((site.addSources earlier).pages.flatMap (·.page.locales)) ∧
    (∀ later, (site.addSources earlier).locales <+:
      (site.addSources (earlier ++ later)).locales) ∧
    ∀ files loaded, (site.addSources earlier).addFiles files = .ok loaded →
      loaded = site.addSources (earlier ++ files.map .ofFile) := by
  have split : ∀ later, site.addSources (earlier ++ later) =
      (site.addSources earlier).addSources later :=
    fun later => List.foldl_append
  refine ⟨fun path sheets => ?_, fun path cause => ?_,
    firstOccurrences_locales _, fun later => ?_, fun files loaded adds => ?_⟩
  · rw [addSources_concat]
    exact addSheets_takes _ path sheets
  · exact ⟨addSources_concat site earlier ⟨path, .error cause⟩, rfl⟩
  · rw [split]
    exact locales_prefix_of_pages
      (pages_prefix_addSources (site.addSources earlier) later)
  · rw [split]
    exact addSources_of_addFiles adds

end Site

end Files

end WorkbookSite

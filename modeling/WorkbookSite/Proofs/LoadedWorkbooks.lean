import WorkbookSite.Proofs.GrowingSites
import WorkbookSite.Proofs.Outcomes
import WorkbookSite.Proofs.SheetPages

/-!
# Loaded workbooks

A workbook file that is loaded gives one page for each worksheet of its
workbook, in their order.  It is not loaded if it cannot be opened, if the cells
of a worksheet cannot be read, or if a worksheet is no page, and then the error
is that of the first such worksheet; all worksheets are read before the first
one is taken for a page.
-/

namespace WorkbookSite

theorem exists_of_forall₂ {α β : Type} {related : α → β → Prop}
    {first : List α} {second : List β}
    (each : List.Forall₂ related first second) :
    ∀ one ∈ first, ∃ other, related one other := by
  induction each with
  | nil => exact List.forall_mem_nil _
  | cons here _ induction =>
      exact List.forall_mem_cons.mpr ⟨⟨_, here⟩, induction⟩

theorem exists_split_of_forall₂ {α β : Type} {related : α → β → Prop}
    {first : List α} {before after : List β} {other : β}
    (each : List.Forall₂ related first (before ++ other :: after)) :
    ∃ front one back, first = front ++ one :: back ∧
      List.Forall₂ related front before ∧ related one other := by
  have front := List.forall₂_take_append first before (other :: after) each
  obtain ⟨one, back, here, -, spelled⟩ := List.forall₂_cons_right_iff.mp
    (List.forall₂_drop_append first before (other :: after) each)
  refine ⟨first.take before.length, one, back, ?_, front, here⟩
  rw [← spelled, List.take_append_drop]

theorem forall₂_trans {α β γ : Type} {one : α → β → Prop} {two : β → γ → Prop}
    {both : α → γ → Prop} (compose : ∀ a b c, one a b → two b c → both a c)
    {first : List α} {second : List β} {third : List γ}
    (start : List.Forall₂ one first second)
    (rest : List.Forall₂ two second third) :
    List.Forall₂ both first third := by
  induction start generalizing third with
  | nil =>
      cases rest
      exact .nil
  | cons here _ induction =>
      cases rest with
      | cons there later =>
          exact .cons (compose _ _ _ here there) (induction later)

/-- The cells of a worksheet can be read. -/
def OpenedWorksheet.IsReadable (worksheet : OpenedWorksheet) : Prop :=
  ∃ cells, worksheet.cells = .ok cells

theorem OpenedWorksheet.read_eq_ok_iff {worksheet : OpenedWorksheet}
    {sheet : Sheet} :
    worksheet.read = .ok sheet ↔ ∃ cells, worksheet.cells = .ok cells ∧
      sheet = Worksheet.read ⟨worksheet.name, cells⟩ := by
  rw [read]
  cases worksheet.cells with
  | error message => simp
  | ok cells => simp [eq_comm]

/-- All sheets are read, or the first one that cannot be read is reported. -/
theorem OpenedWorkbook.sheets_cases (workbook : OpenedWorkbook) :
    (∃ sheets, workbook.sheets = .ok sheets ∧
      List.Forall₂ (fun worksheet sheet => worksheet.read = .ok sheet)
        workbook.worksheets sheets) ∨
    ∃ before worksheet after message,
      workbook.worksheets = before ++ worksheet :: after ∧
        (∀ earlier ∈ before, earlier.IsReadable) ∧
        worksheet.cells = .error message ∧
        workbook.sheets = .error (.reading worksheet.name message) := by
  obtain ⟨worksheets⟩ := workbook
  simp only [sheets]
  induction worksheets with
  | nil => exact .inl ⟨[], rfl, .nil⟩
  | cons worksheet worksheets induction =>
      rw [List.mapM_cons]
      cases filled : worksheet.cells with
      | error message =>
          refine .inr ⟨[], worksheet, worksheets, message, rfl,
            List.forall_mem_nil _, filled, ?_⟩
          simp only [OpenedWorksheet.read, filled]
          rfl
      | ok cells =>
          have here := OpenedWorksheet.read_eq_ok_iff.mpr ⟨cells, filled, rfl⟩
          rw [here]
          rcases induction with ⟨sheets, whole, each⟩ |
            ⟨before, failing, after, message, rfl, sound, fails, whole⟩
          · refine .inl ⟨_ :: sheets, ?_, .cons here each⟩
            rw [whole]
            rfl
          · refine .inr ⟨worksheet :: before, failing, after, message, rfl,
              List.forall_mem_cons.mpr ⟨⟨cells, filled⟩, sound⟩, fails, ?_⟩
            rw [whole]
            rfl

namespace Site

/-- The page of a worksheet: what is read of its cells is parsed to it. -/
structure PageOf (path : Path) (worksheet : OpenedWorksheet)
    (sourced : SourcedPage) : Prop where
  source : sourced.source = path
  name : sourced.page.name = worksheet.name
  parsed : ∃ cells, worksheet.cells = .ok cells ∧
    Page.parse (Worksheet.read ⟨worksheet.name, cells⟩) = .ok sourced.page

theorem pageOf_of_read {path : Path} {worksheet : OpenedWorksheet}
    {sheet : Sheet} {page : Page} (reads : worksheet.read = .ok sheet)
    (parsed : Page.parse sheet = .ok page) :
    PageOf path worksheet ⟨path, page⟩ := by
  obtain ⟨cells, filled, rfl⟩ := OpenedWorksheet.read_eq_ok_iff.mp reads
  exact ⟨rfl, congrArg Page.name (Page.eq_page_of_parse parsed),
    cells, filled, parsed⟩

theorem pagesOf_of_parsed {path : Path} {worksheets : List OpenedWorksheet}
    {sheets : List Sheet} {pages : List Page}
    (reads : List.Forall₂ (fun worksheet sheet => worksheet.read = .ok sheet)
      worksheets sheets) (parsed : ParsedAs sheets pages) :
    List.Forall₂ (PageOf path) worksheets (pages.map (⟨path, ·⟩)) := by
  rw [List.forall₂_map_right_iff]
  apply forall₂_trans _ reads parsed
  intro worksheet sheet page read isPage
  exact pageOf_of_read read isPage

variable [WorkbookReader]

/-- The pages of a workbook file: one for each worksheet of its workbook, in
their order. -/
def Loads (file : Path × Content) (pages : List SourcedPage) : Prop :=
  ∃ workbook, WorkbookReader.opened file.1 file.2 = .ok workbook ∧
    List.Forall₂ (PageOf file.1) workbook.worksheets pages

/-- What is wrong with a workbook file: it cannot be opened, or a worksheet is
the first whose cells cannot be read, or all of them can be read and it is the
first that is no page. -/
inductive Offends (file : Path × Content) : SiteError → Prop where
  | opening {message : String}
      (refused : WorkbookReader.opened file.1 file.2 = .error message) :
      Offends file (.workbook ⟨file.1, .opening file.1 message⟩)
  | reading {workbook : OpenedWorkbook} {before after : List OpenedWorksheet}
      {worksheet : OpenedWorksheet} {message : String}
      (opened : WorkbookReader.opened file.1 file.2 = .ok workbook)
      (split : workbook.worksheets = before ++ worksheet :: after)
      (sound : ∀ earlier ∈ before, earlier.IsReadable)
      (failed : worksheet.cells = .error message) :
      Offends file (.workbook ⟨file.1, .reading worksheet.name message⟩)
  | layout {workbook : OpenedWorkbook} {before after : List OpenedWorksheet}
      {worksheet : OpenedWorksheet} {pages : List SourcedPage}
      {cells : List (List Cell)} {cause : LayoutError}
      (opened : WorkbookReader.opened file.1 file.2 = .ok workbook)
      (readable : ∀ other ∈ workbook.worksheets, other.IsReadable)
      (split : workbook.worksheets = before ++ worksheet :: after)
      (parsed : List.Forall₂ (PageOf file.1) before pages)
      (filled : worksheet.cells = .ok cells)
      (noPage : Page.parse (Worksheet.read ⟨worksheet.name, cells⟩) =
        .error cause) :
      Offends file (.layout file.1 cause)

theorem Loads.not_offends {file : Path × Content} {pages : List SourcedPage}
    {error : SiteError} (loads : Loads file pages) : ¬ Offends file error := by
  obtain ⟨workbook, opened, each⟩ := loads
  have isPage : ∀ {before after worksheet},
      workbook.worksheets = before ++ worksheet :: after →
        ∃ sourced, PageOf file.1 worksheet sourced := by
    intro before after worksheet split
    apply exists_of_forall₂ each
    rw [split]
    exact List.mem_append_right before List.mem_cons_self
  intro offends
  cases offends with
  | opening refused => cases refused.symm.trans opened
  | reading opened' split _ failed =>
      obtain rfl := Except.ok.inj (opened.symm.trans opened')
      obtain ⟨sourced, page⟩ := isPage split
      obtain ⟨cells, filled, -⟩ := page.parsed
      cases failed.symm.trans filled
  | layout opened' _ split _ filled noPage =>
      obtain rfl := Except.ok.inj (opened.symm.trans opened')
      obtain ⟨sourced, page⟩ := isPage split
      obtain ⟨cells, filled', parsed⟩ := page.parsed
      obtain rfl := Except.ok.inj (filled.symm.trans filled')
      cases noPage.symm.trans parsed

/-- A file adds its pages, or the loading ends with what is wrong with it. -/
theorem addFiles_cons_cases (site : Site) (file : Path × Content)
    (others : List (Path × Content)) :
    (∃ pages, Loads file pages ∧ site.addFiles (file :: others) =
      addFiles ⟨site.pages ++ pages⟩ others) ∨
    ∃ error, Offends file error ∧
      site.addFiles (file :: others) = .error error := by
  obtain ⟨path, content⟩ := file
  rw [addFiles, WorkbookReader.sheets, WorkbookReader.openFile]
  cases opened : WorkbookReader.opened path content with
  | error message => exact .inr ⟨_, .opening opened, rfl⟩
  | ok workbook =>
      have whole : (Except.mapError (SheetError.opening path)
          (.ok workbook) >>= OpenedWorkbook.sheets) = workbook.sheets := rfl
      rw [whole]
      rcases workbook.sheets_cases with ⟨sheets, read, reads⟩ |
        ⟨before, worksheet, after, message, split, sound, failed, read⟩
      · simp only [read, addSource, addSheets]
        rcases parseSheets_cases sheets with ⟨pages, outcome, parsed⟩ |
          ⟨start, sheet, rest, pages, cause, rfl, outcome, parsed, noPage⟩
        · left
          refine ⟨pages.map (⟨path, ·⟩),
            ⟨workbook, opened, pagesOf_of_parsed reads parsed⟩, ?_⟩
          rw [outcome]
        · right
          obtain ⟨before, worksheet, after, split, earlier, here⟩ :=
            exists_split_of_forall₂ reads
          obtain ⟨cells, filled, rfl⟩ :=
            OpenedWorksheet.read_eq_ok_iff.mp here
          have readable : ∀ other ∈ workbook.worksheets, other.IsReadable := by
            intro other listed
            obtain ⟨sheet, found⟩ := exists_of_forall₂ reads other listed
            obtain ⟨cells, filled, -⟩ :=
              OpenedWorksheet.read_eq_ok_iff.mp found
            exact ⟨cells, filled⟩
          refine ⟨_, .layout opened readable split
            (pagesOf_of_parsed earlier parsed) filled noPage, ?_⟩
          rw [outcome]
      · right
        refine ⟨_, .reading opened split sound failed, ?_⟩
        rw [read]
        rfl

/-- All files are loaded one after the other, or the error is what is wrong with
the first one that offends. -/
theorem addFiles_cases (site : Site) (found : List (Path × Content)) :
    (∃ blocks, List.Forall₂ Loads found blocks ∧
      site.addFiles found = .ok ⟨site.pages ++ blocks.flatten⟩) ∨
    ∃ before file after error, found = before ++ file :: after ∧
      (∀ earlier ∈ before, ∃ pages, Loads earlier pages) ∧
      Offends file error ∧ site.addFiles found = .error error := by
  induction found generalizing site with
  | nil =>
      refine .inl ⟨[], .nil, ?_⟩
      rw [addFiles, List.flatten_nil, List.append_nil]
  | cons file others induction =>
      rcases site.addFiles_cons_cases file others with
        ⟨pages, loads, adds⟩ | ⟨error, offends, fails⟩
      · rw [adds]
        rcases induction ⟨site.pages ++ pages⟩ with
          ⟨blocks, each, loaded⟩ |
          ⟨before, later, after, error, rfl, sound, offends, fails⟩
        · refine .inl ⟨pages :: blocks, .cons loads each, ?_⟩
          rw [loaded, List.flatten_cons, List.append_assoc]
        · exact .inr ⟨file :: before, later, after, error, rfl,
            List.forall_mem_cons.mpr ⟨⟨pages, loads⟩, sound⟩, offends, fails⟩
      · exact .inr ⟨[], file, others, error, rfl, List.forall_mem_nil _,
          offends, fails⟩

end Site

end WorkbookSite

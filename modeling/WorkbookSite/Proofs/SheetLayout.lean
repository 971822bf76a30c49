import Mathlib.Data.List.Nodup
import WorkbookSite.Proofs.SheetRows

/-!
# Sheets that are in layout

Which sheets are pages, said of their cells alone.  `Sheet.HasFault` says when a
sheet has a fault, and `Sheet.FirstFault` which of its faults is reported: the
first one in the order of the checks.  A sheet without any fault is in layout,
and its page has the locales of the header with one path each.
-/

namespace WorkbookSite

/-- The place of a fault in the order of the checks. -/
def LayoutFault.rank : LayoutFault → Nat
  | .empty => 0
  | .missingAttributeColumn => 1
  | .misplacedAttributeColumn => 2
  | .duplicateLocale _ => 3
  | .noLocales => 4
  | .missingPathRow => 5
  | .missingPath _ => 6
  | .orphanValues _ => 7

namespace Sheet

/-- The cells right of the attribute marker up to the first blank one. -/
def localeRun (sheet : Sheet) : List String :=
  ((sheet.rows.headD []).drop (sheet.attributeColumn + 1)).takeWhile (· != "")

/-- The cell of a row in the column of a locale, which is given by its place in
the header. -/
def localeCell (sheet : Sheet) (row place : Nat) : String :=
  sheet.cell row (sheet.attributeColumn + 1 + place)

/-- The row has values, but no key. -/
def IsOrphan (sheet : Sheet) (row : Nat) : Prop :=
  (∀ column ≤ sheet.attributeColumn, sheet.cell row column = "") ∧
    ∃ place < sheet.localeRun.length, sheet.localeCell row place ≠ ""

/-- When a sheet has a fault.  Of several repeated locales, locales without a
path or orphan rows, the fault names the first. -/
def HasFault (sheet : Sheet) : LayoutFault → Prop
  | .empty => sheet.rows = []
  | .missingAttributeColumn => "attribute" ∉ sheet.rows.headD []
  | .misplacedAttributeColumn => sheet.attributeColumn = 0
  | .duplicateLocale locale =>
      ∃ before after, sheet.localeRun = before ++ locale :: after ∧
        before.Nodup ∧ locale ∈ before
  | .noLocales => sheet.localeRun = []
  | .missingPathRow => sheet.rows.length < 2 ∨ sheet.cell 1 0 ≠ "path"
  | .missingPath locale =>
      ∃ place, sheet.localeRun[place]? = some locale ∧
        sheet.localeCell 1 place = "" ∧
        ∀ earlier < place, sheet.localeCell 1 earlier ≠ ""
  | .orphanValues number =>
      ∃ row, number = row + 1 ∧ 2 ≤ row ∧ row < sheet.rows.length ∧
        sheet.IsOrphan row ∧
        ∀ earlier, 2 ≤ earlier → earlier < row → ¬ sheet.IsOrphan earlier

/-- The fault of a sheet that comes first in the order of the checks. -/
structure FirstFault (sheet : Sheet) (fault : LayoutFault) : Prop where
  present : sheet.HasFault fault
  first : ∀ other, sheet.HasFault other → fault.rank ≤ other.rank

/-- The header has an attribute marker that is not in the first column, and
right of it locales that differ from each other. -/
structure HeaderFits (sheet : Sheet) : Prop where
  marked : "attribute" ∈ sheet.rows.headD []
  placed : sheet.attributeColumn ≠ 0
  localesDistinct : sheet.localeRun.Nodup
  localesNamed : sheet.localeRun ≠ []

/-- The second row is marked as the path row and has a path for each locale. -/
structure PathsFit (sheet : Sheet) : Prop where
  marked : 2 ≤ sheet.rows.length ∧ sheet.cell 1 0 = "path"
  filled : ∀ place < sheet.localeRun.length, sheet.localeCell 1 place ≠ ""

/-- What a sheet must be like to be a page. -/
structure InLayout (sheet : Sheet) : Prop where
  filled : sheet.rows ≠ []
  header : sheet.HeaderFits
  paths : sheet.PathsFit
  keyed : ∀ row, 2 ≤ row → row < sheet.rows.length → ¬ sheet.IsOrphan row

/-- The sheet has no fault that is checked before the given place. -/
def ClearBelow (sheet : Sheet) (rank : Nat) : Prop :=
  ∀ fault, sheet.HasFault fault → rank ≤ fault.rank

variable {sheet : Sheet}

theorem ClearBelow.firstFault {fault : LayoutFault}
    (clear : sheet.ClearBelow fault.rank) (present : sheet.HasFault fault) :
    sheet.FirstFault fault :=
  ⟨present, clear⟩

theorem ClearBelow.step {rank : Nat} (clear : sheet.ClearBelow rank)
    (absent : ∀ fault, fault.rank = rank → ¬ sheet.HasFault fault) :
    sheet.ClearBelow (rank + 1) := by
  intro fault present
  have reached := clear fault present
  have other : fault.rank ≠ rank := fun same => absent fault same present
  omega

theorem eq_of_repeated {before middle after rest : List String}
    {first second : String} (distinct : (before ++ middle).Nodup)
    (repeated : first ∈ before)
    (same : first :: after = middle ++ second :: rest) : first = second := by
  cases middle with
  | nil => exact (List.cons.inj same).1
  | cons next middle =>
      obtain ⟨rfl, -⟩ := List.cons.inj same
      exact absurd List.mem_cons_self
        (List.disjoint_of_nodup_append distinct repeated)

theorem HasFault.eq_of_rank {first second : LayoutFault}
    (one : sheet.HasFault first) (other : sheet.HasFault second)
    (same : first.rank = second.rank) : first = second := by
  cases first <;> cases second <;> cases same <;> try rfl
  case duplicateLocale.duplicateLocale.refl =>
    obtain ⟨before, after, run, distinct, repeated⟩ := one
    obtain ⟨otherBefore, otherAfter, otherRun, otherDistinct, otherRepeated⟩ :=
      other
    rw [run] at otherRun
    rcases List.append_eq_append_iff.mp otherRun with
      ⟨middle, rfl, rest⟩ | ⟨middle, rfl, rest⟩
    · rw [eq_of_repeated otherDistinct repeated rest]
    · rw [eq_of_repeated distinct otherRepeated rest]
  case missingPath.missingPath.refl =>
    obtain ⟨place, found, blank, filled⟩ := one
    obtain ⟨otherPlace, otherFound, otherBlank, otherFilled⟩ := other
    obtain less | rfl | greater := Nat.lt_trichotomy place otherPlace
    · exact absurd blank (otherFilled place less)
    · rw [Option.some.inj (found.symm.trans otherFound)]
    · exact absurd otherBlank (filled otherPlace greater)
  case orphanValues.orphanValues.refl =>
    obtain ⟨row, rfl, low, -, orphan, first⟩ := one
    obtain ⟨otherRow, rfl, otherLow, -, otherOrphan, otherFirst⟩ := other
    obtain less | rfl | greater := Nat.lt_trichotomy row otherRow
    · exact absurd orphan (otherFirst row low less)
    · rfl
    · exact absurd otherOrphan (first otherRow otherLow greater)

theorem FirstFault.unique {first second : LayoutFault}
    (one : sheet.FirstFault first) (other : sheet.FirstFault second) :
    first = second :=
  one.present.eq_of_rank other.present
    (Nat.le_antisymm (one.first second other.present)
      (other.first first one.present))

/-! The checks in their order: each condition rules out one more fault. -/

theorem clearBelow_of_filled (filled : sheet.rows ≠ []) :
    sheet.ClearBelow 1 := by
  have start : sheet.ClearBelow 0 := fun fault _ => Nat.zero_le fault.rank
  apply start.step
  intro fault same present
  cases fault <;> cases same
  exact filled present

theorem ClearBelow.marked (clear : sheet.ClearBelow 1)
    (marked : "attribute" ∈ sheet.rows.headD []) : sheet.ClearBelow 2 := by
  apply clear.step
  intro fault same present
  cases fault <;> cases same
  exact present marked

theorem ClearBelow.placed (clear : sheet.ClearBelow 2)
    (placed : sheet.attributeColumn ≠ 0) : sheet.ClearBelow 3 := by
  apply clear.step
  intro fault same present
  cases fault <;> cases same
  exact placed present

theorem ClearBelow.localesDistinct (clear : sheet.ClearBelow 3)
    (distinct : sheet.localeRun.Nodup) : sheet.ClearBelow 4 := by
  apply clear.step
  intro fault same present
  cases fault <;> cases same
  obtain ⟨before, after, run, -, repeated⟩ := present
  rw [run] at distinct
  exact List.disjoint_of_nodup_append distinct repeated List.mem_cons_self

theorem ClearBelow.localesNamed (clear : sheet.ClearBelow 4)
    (named : sheet.localeRun ≠ []) : sheet.ClearBelow 5 := by
  apply clear.step
  intro fault same present
  cases fault <;> cases same
  exact named present

theorem HeaderFits.clearBelow (header : sheet.HeaderFits)
    (filled : sheet.rows ≠ []) : sheet.ClearBelow 5 :=
  (((clearBelow_of_filled filled).marked header.marked).placed
    header.placed).localesDistinct header.localesDistinct
    |>.localesNamed header.localesNamed

theorem ClearBelow.pathRow (clear : sheet.ClearBelow 5)
    (marked : 2 ≤ sheet.rows.length ∧ sheet.cell 1 0 = "path") :
    sheet.ClearBelow 6 := by
  apply clear.step
  intro fault same present
  cases fault <;> cases same
  rcases present with short | unmarked
  · exact Nat.not_le_of_lt short marked.1
  · exact unmarked marked.2

theorem ClearBelow.paths (clear : sheet.ClearBelow 5)
    (paths : sheet.PathsFit) : sheet.ClearBelow 7 := by
  apply (clear.pathRow paths.marked).step
  intro fault same present
  cases fault <;> cases same
  obtain ⟨place, found, blank, -⟩ := present
  exact paths.filled place (List.getElem?_eq_some_iff.mp found).1 blank

theorem InLayout.no_fault (inLayout : sheet.InLayout) (fault : LayoutFault) :
    ¬ sheet.HasFault fault := by
  intro present
  have clear := (inLayout.header.clearBelow inLayout.filled).paths
    inLayout.paths
  have last := clear fault present
  cases fault with
  | orphanValues number =>
      obtain ⟨row, -, low, high, orphan, -⟩ := present
      exact inLayout.keyed row low high orphan
  | _ => simp [LayoutFault.rank] at last

end Sheet

namespace Layout

theorem readLocales_eq_ok {seen cells locales : List String}
    (distinct : seen.Nodup) (read : readLocales seen cells = .ok locales) :
    locales = seen ++ cells.takeWhile (· != "") ∧ locales.Nodup := by
  induction cells generalizing seen with
  | nil =>
      cases read
      exact ⟨(List.append_nil _).symm, distinct⟩
  | cons cell cells induction =>
      rw [readLocales] at read
      split at read
      · rename_i blank
        cases read
        exact ⟨by simp [blank], distinct⟩
      · rename_i filled
        split at read
        · cases read
        · rename_i fresh
          have grown : (seen ++ [cell]).Nodup := by
            simpa using distinct.concat fresh
          obtain ⟨whole, wholeDistinct⟩ := induction grown read
          exact ⟨by simp [whole, filled], wholeDistinct⟩

theorem readLocales_eq_error {seen cells : List String} {fault : LayoutFault}
    (distinct : seen.Nodup) (read : readLocales seen cells = .error fault) :
    ∃ locale before after,
      seen ++ cells.takeWhile (· != "") = before ++ locale :: after ∧
        before.Nodup ∧ locale ∈ before ∧ fault = .duplicateLocale locale := by
  induction cells generalizing seen with
  | nil => cases read
  | cons cell cells induction =>
      rw [readLocales] at read
      split at read
      · cases read
      · rename_i filled
        split at read
        · rename_i repeated
          cases read
          exact ⟨cell, seen, cells.takeWhile (· != ""), by simp [filled],
            distinct, repeated, rfl⟩
        · rename_i fresh
          have grown : (seen ++ [cell]).Nodup := by
            simpa using distinct.concat fresh
          obtain ⟨locale, before, after, run, rest⟩ := induction grown read
          exact ⟨locale, before, after, by simpa [filled] using run, rest⟩

variable {sheet : Sheet} {layout : Layout}

/-- The layout is the one that the header of the sheet gives. -/
structure Describes (layout : Layout) (sheet : Sheet) : Prop where
  column : layout.attributeColumn = sheet.attributeColumn
  locales : layout.locales = sheet.localeRun

theorem attributeColumn_of_idxOf? {column : Nat}
    (found : (sheet.rows.headD []).idxOf? "attribute" = some column) :
    "attribute" ∈ sheet.rows.headD [] ∧ sheet.attributeColumn = column := by
  constructor
  · apply Decidable.byContradiction
    intro missing
    rw [List.idxOf?_eq_none_iff.mpr missing] at found
    cases found
  · rw [Sheet.attributeColumn, List.idxOf_eq_getD_idxOf?, found]
    rfl

theorem ofHeader_eq_ok
    (read : ofHeader (sheet.rows.headD []) = .ok layout) :
    layout.Describes sheet ∧ sheet.HeaderFits := by
  unfold ofHeader at read
  split at read
  · cases read
  · cases read
  · rename_i column right found
    obtain ⟨marked, rfl⟩ := attributeColumn_of_idxOf? found
    obtain ⟨locales, run, checked⟩ := Outcome.bind_eq_ok.mp read
    obtain ⟨whole, distinct⟩ := readLocales_eq_ok List.nodup_nil run
    split at checked
    · cases checked
    · rename_i named
      cases checked
      rw [List.isEmpty_iff] at named
      have same : sheet.localeRun = locales := whole.symm
      subst same
      exact ⟨⟨rfl, rfl⟩, marked, right, distinct, named⟩

theorem firstFault_of_ofHeader {fault : LayoutFault}
    (filled : sheet.rows ≠ [])
    (read : ofHeader (sheet.rows.headD []) = .error fault) :
    sheet.FirstFault fault := by
  have clear := Sheet.clearBelow_of_filled filled
  unfold ofHeader at read
  split at read
  · rename_i missing
    cases read
    exact clear.firstFault (List.idxOf?_eq_none_iff.mp missing)
  · rename_i found
    cases read
    obtain ⟨marked, first⟩ := attributeColumn_of_idxOf? found
    exact (clear.marked marked).firstFault first
  · rename_i column right found
    obtain ⟨marked, rfl⟩ := attributeColumn_of_idxOf? found
    have clear := (clear.marked marked).placed right
    rcases Outcome.bind_eq_error.mp read with failed | ⟨locales, run, checked⟩
    · obtain ⟨locale, before, after, run, distinct, repeated, rfl⟩ :=
        readLocales_eq_error List.nodup_nil failed
      exact clear.firstFault ⟨before, after, run, distinct, repeated⟩
    · obtain ⟨whole, distinct⟩ := readLocales_eq_ok List.nodup_nil run
      have same : sheet.localeRun = locales := whole.symm
      subst same
      split at checked
      · rename_i none
        cases checked
        exact (clear.localesDistinct distinct).firstFault
          (List.isEmpty_iff.mp none)
      · cases checked

/-- The path of a locale, from the column of the locale. -/
def readPath (sheet : Sheet) (place : String × Nat) :
    Except LayoutFault (String × String) :=
  if sheet.cell 1 place.2 = "" then .error (.missingPath place.1)
  else .ok (place.1, sheet.cell 1 place.2)

theorem readPath_eq_ok {place : String × Nat} {path : String × String}
    (read : readPath sheet place = .ok path) :
    sheet.cell 1 place.2 ≠ "" ∧ path = (place.1, sheet.cell 1 place.2) := by
  unfold readPath at read
  split at read
  · cases read
  · rename_i filled
    cases read
    exact ⟨filled, rfl⟩

theorem Describes.localeColumns_eq (describes : layout.Describes sheet) :
    layout.localeColumns =
      sheet.localeRun.zipIdx (sheet.attributeColumn + 1) := by
  rw [localeColumns, describes.locales, describes.column]

theorem readPaths_eq_ok {paths : List (String × String)}
    (describes : layout.Describes sheet)
    (read : layout.readPaths sheet = .ok paths) :
    paths = (sheet.localeRun.zipIdx (sheet.attributeColumn + 1)).map
        (fun place => (place.1, sheet.cell 1 place.2)) ∧
      sheet.PathsFit := by
  unfold readPaths at read
  split at read
  · cases read
  · rename_i marked
    rw [not_or, Nat.not_lt, not_ne_iff] at marked
    rw [describes.localeColumns_eq] at read
    obtain ⟨rfl, each⟩ := Outcome.mapM_eq_ok (readPath sheet)
      (fun place path found => (readPath_eq_ok found).2) read
    refine ⟨rfl, marked, ?_⟩
    intro place inRun
    have listed : (sheet.localeRun[place], sheet.attributeColumn + 1 + place) ∈
        sheet.localeRun.zipIdx (sheet.attributeColumn + 1) :=
      List.mk_add_mem_zipIdx_iff_getElem?.mpr (by simp)
    exact (readPath_eq_ok (each _ listed)).1

theorem firstFault_of_readPaths {fault : LayoutFault}
    (describes : layout.Describes sheet) (clear : sheet.ClearBelow 5)
    (read : layout.readPaths sheet = .error fault) :
    sheet.FirstFault fault := by
  unfold readPaths at read
  split at read
  · rename_i unmarked
    cases read
    exact clear.firstFault unmarked
  · rename_i marked
    rw [not_or, Nat.not_lt, not_ne_iff] at marked
    rw [describes.localeColumns_eq] at read
    obtain ⟨before, ⟨locale, column⟩, after, split, filled, blank⟩ :=
      Outcome.mapM_eq_error (readPath sheet) read
    obtain ⟨earlierLocales, laterLocales, run, rfl, later⟩ :=
      List.zipIdx_eq_append_iff.mp split
    obtain ⟨_, others, rfl, same, -⟩ := List.zipIdx_eq_cons_iff.mp later.symm
    obtain ⟨rfl, rfl⟩ := Prod.mk.inj same
    unfold readPath at blank
    split at blank
    · rename_i empty
      cases blank
      refine (clear.pathRow marked).firstFault
        ⟨earlierLocales.length, by simp [run], empty, ?_⟩
      intro place before
      have listed :
          (earlierLocales[place], sheet.attributeColumn + 1 + place) ∈
            earlierLocales.zipIdx (sheet.attributeColumn + 1) :=
        List.mk_add_mem_zipIdx_iff_getElem?.mpr (by simp)
      obtain ⟨path, found⟩ := filled _ listed
      exact (readPath_eq_ok found).1
    · cases blank

theorem lookup_zipIdx (value : Nat → String) (names : List String)
    (first : Nat) (name : String) :
    ((names.zipIdx first).map fun place => (place.1, value place.2)).lookup
        name =
      if name ∈ names then some (value (first + names.idxOf name)) else none := by
  induction names generalizing first with
  | nil => rfl
  | cons other names induction =>
      rw [List.zipIdx_cons, List.map_cons, List.lookup_cons, induction]
      by_cases same : name = other
      · simp [same]
      · have place : (other :: names).idxOf name = names.idxOf name + 1 :=
          List.idxOf_cons_ne names (Ne.symm same)
        simp [beq_false_of_ne same, same, place, Nat.add_right_comm,
          Nat.add_assoc]

theorem rowValues_isEmpty_iff (describes : layout.Describes sheet)
    (row : Nat) :
    (layout.rowValues sheet row).isEmpty = true ↔
      ∀ place < sheet.localeRun.length, sheet.localeCell row place = "" := by
  rw [rowValues, describes.localeColumns_eq, List.isEmpty_iff,
    List.filterMap_eq_nil_iff]
  constructor
  · intro blank place inRun
    have listed : (sheet.localeRun[place], sheet.attributeColumn + 1 + place) ∈
        sheet.localeRun.zipIdx (sheet.attributeColumn + 1) :=
      List.mk_add_mem_zipIdx_iff_getElem?.mpr (by simp)
    simpa [Sheet.localeCell] using blank _ listed
  · rintro blank ⟨locale, column⟩ listed
    obtain ⟨after, found⟩ :=
      List.mk_mem_zipIdx_iff_le_and_getElem?_sub.mp listed
    have empty := blank _ (List.getElem?_eq_some_iff.mp found).1
    rw [Sheet.localeCell, Nat.add_sub_cancel' after] at empty
    simp [empty]

theorem keyColumn?_eq_none_iff (describes : layout.Describes sheet)
    (row : Nat) :
    layout.keyColumn? sheet row = none ↔
      ∀ column ≤ sheet.attributeColumn, sheet.cell row column = "" := by
  rw [keyColumn?, describes.column, List.find?_eq_none]
  simp only [List.mem_range, Nat.lt_succ_iff, bne_iff_ne, ne_eq,
    Decidable.not_not]

theorem readRow_eq_orphan_iff (describes : layout.Describes sheet)
    (row : Nat) : layout.readRow sheet row = .orphan ↔ sheet.IsOrphan row := by
  rw [Sheet.IsOrphan, ← keyColumn?_eq_none_iff describes, readRow]
  have values := rowValues_isEmpty_iff describes row
  cases key : layout.keyColumn? sheet row with
  | some column => simp
  | none =>
      cases empty : (layout.rowValues sheet row).isEmpty with
      | true => simpa using values.mp empty
      | false => simpa [empty] using values

/-- Reading ends with the first orphan row. -/
theorem exists_orphan_of_readRows {rows : List Nat} {entries : List Entry}
    {number : Nat}
    (read : layout.readRows sheet rows = (entries, some number)) :
    ∃ before row after, rows = before ++ row :: after ∧ number = row + 1 ∧
      layout.readRow sheet row = .orphan ∧
      ∀ earlier ∈ before, layout.readRow sheet earlier ≠ .orphan := by
  induction rows generalizing entries with
  | nil => cases read
  | cons first rows induction =>
      have further {kind : RowKind} {entries : List Entry}
          (found : layout.readRow sheet first = kind) (other : kind ≠ .orphan)
          (read : layout.readRows sheet rows = (entries, some number)) :
          ∃ before row after, first :: rows = before ++ row :: after ∧
            number = row + 1 ∧ layout.readRow sheet row = .orphan ∧
            ∀ earlier ∈ before, layout.readRow sheet earlier ≠ .orphan := by
        obtain ⟨before, row, after, rfl, counted, orphan, each⟩ :=
          induction read
        exact ⟨first :: before, row, after, rfl, counted, orphan,
          List.forall_mem_cons.mpr ⟨found ▸ other, each⟩⟩
      rw [readRows] at read
      split at read
      · rename_i blank
        exact further blank (by simp) read
      · rename_i orphan
        cases read
        exact ⟨[], first, rows, rfl, rfl, orphan, List.forall_mem_nil _⟩
      · rename_i entry found
        obtain ⟨-, later⟩ := Prod.mk.inj read
        exact further found (by simp) (Prod.ext rfl later)

theorem no_orphan_of_readRows {rows : List Nat} {entries : List Entry}
    (read : layout.readRows sheet rows = (entries, none)) :
    ∀ row ∈ rows, layout.readRow sheet row ≠ .orphan := by
  induction rows generalizing entries with
  | nil => exact List.forall_mem_nil _
  | cons first rows induction =>
      rw [readRows] at read
      split at read
      · rename_i blank
        exact List.forall_mem_cons.mpr ⟨by simp [blank], induction read⟩
      · cases read
      · rename_i entry found
        obtain ⟨-, later⟩ := Prod.mk.inj read
        exact List.forall_mem_cons.mpr
          ⟨by simp [found], induction (Prod.ext rfl later)⟩

theorem firstFault_of_readEntries {entries : List Entry} {number : Nat}
    (describes : layout.Describes sheet) (clear : sheet.ClearBelow 7)
    (read : layout.readEntries sheet = (entries, some number)) :
    sheet.FirstFault (.orphanValues number) := by
  rw [readEntries, List.range_eq_range', List.drop_range'] at read
  obtain ⟨before, row, after, rows, rfl, orphan, each⟩ :=
    exists_orphan_of_readRows read
  obtain ⟨count, bound, rfl, rest⟩ := List.range'_eq_append_iff.mp rows
  obtain ⟨place, remaining, -⟩ := List.range'_eq_cons_iff.mp rest.symm
  rw [Nat.mul_one] at place
  refine clear.firstFault ⟨row, rfl, by omega, by omega,
    (readRow_eq_orphan_iff describes row).mp orphan, ?_⟩
  intro earlier low before
  rw [← readRow_eq_orphan_iff describes]
  apply each
  rw [List.mem_range'_1]
  omega

theorem keyed_of_readEntries {entries : List Entry}
    (describes : layout.Describes sheet)
    (read : layout.readEntries sheet = (entries, none)) (row : Nat)
    (low : 2 ≤ row) (high : row < sheet.rows.length) :
    ¬ sheet.IsOrphan row := by
  rw [readEntries, List.range_eq_range', List.drop_range'] at read
  rw [← readRow_eq_orphan_iff describes]
  apply no_orphan_of_readRows read
  rw [List.mem_range'_1]
  omega

end Layout

namespace Page

variable {sheet : Sheet}

theorem inLayout_of_parse {page : Page} (parsed : parse sheet = .ok page) :
    sheet.InLayout := by
  have filled : sheet.rows ≠ [] := by
    intro empty
    unfold parse at parsed
    simp only [empty] at parsed
    cases parsed
  obtain ⟨layout, paths, entries, headed, found, read, -⟩ := of_parse parsed
  obtain ⟨describes, header⟩ := Layout.ofHeader_eq_ok headed
  exact {
    filled := filled
    header := header
    paths := (Layout.readPaths_eq_ok describes found).2
    keyed := Layout.keyed_of_readEntries describes read }

theorem locales_of_parse {page : Page} (parsed : parse sheet = .ok page) :
    page.locales = sheet.localeRun := by
  obtain ⟨layout, paths, entries, headed, -, -, rfl⟩ := of_parse parsed
  exact (Layout.ofHeader_eq_ok headed).1.locales

/-- The path of a locale stands in the path row, in the column of the locale;
nothing else has a path. -/
theorem path?_of_parse {page : Page} (parsed : parse sheet = .ok page)
    (locale : String) :
    page.path? locale =
      if locale ∈ sheet.localeRun then
        some (sheet.localeCell 1 (sheet.localeRun.idxOf locale))
      else none := by
  obtain ⟨layout, paths, entries, headed, found, -, rfl⟩ := of_parse parsed
  obtain ⟨describes, -⟩ := Layout.ofHeader_eq_ok headed
  obtain ⟨rfl, -⟩ := Layout.readPaths_eq_ok describes found
  exact Layout.lookup_zipIdx (sheet.cell 1) _ _ locale

theorem firstFault_of_parse {error : LayoutError}
    (parsed : parse sheet = .error error) :
    error.sheet = sheet.name ∧ sheet.FirstFault error.fault := by
  obtain ⟨fault, reading, rfl⟩ := Outcome.mapError_eq_error.mp parsed
  refine ⟨rfl, ?_⟩
  split at reading
  · rename_i empty
    cases reading
    exact ⟨empty, fun other _ => Nat.zero_le other.rank⟩
  · rename_i header rows filled
    have some : sheet.rows ≠ [] := by simp [filled]
    have first : sheet.rows.headD [] = header := by simp [filled]
    subst first
    rcases Outcome.bind_eq_error.mp reading with
      failed | ⟨layout, headed, reading⟩
    · exact Layout.firstFault_of_ofHeader some failed
    obtain ⟨describes, fits⟩ := Layout.ofHeader_eq_ok headed
    have clear := fits.clearBelow some
    rcases Outcome.bind_eq_error.mp reading with
      failed | ⟨paths, found, reading⟩
    · exact Layout.firstFault_of_readPaths describes clear failed
    have clear := clear.paths (Layout.readPaths_eq_ok describes found).2
    split at reading
    · rename_i entries number read
      cases reading
      exact Layout.firstFault_of_readEntries describes clear read
    · cases reading

/-- A sheet is a page exactly if it is in layout, and the page has the locales
of the header with the paths of the path row.  Otherwise the error names the
sheet and the first of its faults. -/
theorem parse_outcome (sheet : Sheet) :
    ((∃ page, parse sheet = .ok page) ↔ sheet.InLayout) ∧
    (∀ page, parse sheet = .ok page →
      page.locales = sheet.localeRun ∧ page.locales.Nodup ∧
        page.locales ≠ [] ∧
        (∀ place locale, page.locales[place]? = some locale →
          page.path? locale = some (sheet.localeCell 1 place)) ∧
        ∀ locale, locale ∉ page.locales → page.path? locale = none) ∧
    (∀ error, parse sheet = .error error ↔
      error.sheet = sheet.name ∧ sheet.FirstFault error.fault) := by
  refine ⟨⟨?_, ?_⟩, ?_, ?_⟩
  · rintro ⟨page, parsed⟩
    exact inLayout_of_parse parsed
  · intro inLayout
    cases parsed : parse sheet with
    | ok page => exact ⟨page, rfl⟩
    | error error =>
        obtain ⟨-, first⟩ := firstFault_of_parse parsed
        exact absurd first.present (inLayout.no_fault error.fault)
  · intro page parsed
    obtain ⟨-, header, -, -⟩ := inLayout_of_parse parsed
    have locales := locales_of_parse parsed
    rw [locales]
    refine ⟨rfl, header.localesDistinct, header.localesNamed, ?_, ?_⟩
    · intro place locale found
      obtain ⟨inRun, rfl⟩ := List.getElem?_eq_some_iff.mp found
      rw [path?_of_parse parsed, if_pos (List.getElem_mem inRun),
        header.localesDistinct.idxOf_getElem]
    · intro locale missing
      rw [path?_of_parse parsed, if_neg missing]
  · intro error
    constructor
    · exact firstFault_of_parse
    · rintro ⟨named, first⟩
      cases parsed : parse sheet with
      | ok page =>
          exact absurd first.present
            ((inLayout_of_parse parsed).no_fault error.fault)
      | error other =>
          obtain ⟨otherNamed, otherFirst⟩ := firstFault_of_parse parsed
          obtain ⟨otherSheet, otherFault⟩ := other
          obtain ⟨sheetName, fault⟩ := error
          obtain rfl : sheetName = otherSheet := named.trans otherNamed.symm
          obtain rfl : fault = otherFault := first.unique otherFirst
          rfl

end Page

end WorkbookSite

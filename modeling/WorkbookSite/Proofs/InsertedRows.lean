import Mathlib.Data.List.InsertIdx
import WorkbookSite.Proofs.MappedOutlines
import WorkbookSite.Proofs.SameCells

/-!
# Rows that are inserted

A blank row that is put in below the path row, also between an element and what
stands under it, changes the numbers of the rows after it and nothing else: the
page, its warnings, the first fault of its sheet and what it is rendered to stay
as they are, but for these numbers.
-/

namespace WorkbookSite

/-- The number of a row, counted from one, after another row has been put in at
a place, counted from zero. -/
def rowAfterInsert (place number : Nat) : Nat :=
  if place < number then number + 1 else number

/-- Where a row, counted from zero, stands after another row has been put in at
a place. -/
def placeAfterInsert (place row : Nat) : Nat :=
  if row < place then row else row + 1

theorem rowAfterInsert_succ (place row : Nat) :
    rowAfterInsert place (row + 1) = placeAfterInsert place row + 1 := by
  rw [rowAfterInsert, placeAfterInsert]
  split <;> split <;> omega

theorem rowAfterInsert_zero (place : Nat) : rowAfterInsert place 0 = 0 :=
  if_neg (Nat.not_lt_zero place)

/-- The entry with the number of its row changed. -/
def Entry.moveRow (move : Nat → Nat) (entry : Entry) : Entry :=
  { entry with row := move entry.row }

/-- The warning with the number of its row changed. -/
def DepthGap.moveRow (move : Nat → Nat) (gap : DepthGap) : DepthGap :=
  { gap with row := move gap.row }

/-- The fault with the number of its row, if it has one, changed. -/
def LayoutFault.moveRow (move : Nat → Nat) : LayoutFault → LayoutFault
  | .orphanValues row => .orphanValues (move row)
  | fault => fault

def LayoutError.moveRow (move : Nat → Nat) (error : LayoutError) :
    LayoutError :=
  { error with fault := error.fault.moveRow move }

/-- The page with the numbers of its rows changed. -/
def Page.moveRows (move : Nat → Nat) (page : Page) : Page :=
  { page with root := page.root.mapEntries (Entry.moveRow move) }

/-- What a row is, with the number of its entry changed. -/
def Layout.RowKind.moveRow (move : Nat → Nat) :
    Layout.RowKind → Layout.RowKind
  | .entry found => .entry (found.moveRow move)
  | .blank => .blank
  | .orphan => .orphan

theorem Entry.movesRows_moveRow (move : Nat → Nat) :
    MovesRows move (moveRow move) where
  key_eq _ := rfl
  isAttribute_eq _ := rfl
  row_eq _ := rfl
  depth_eq _ := rfl

namespace Sheet

variable {sheet : Sheet} {place row column : Nat} {cells : List String}

/-- The sheet with a row put in at a place. -/
def insertRow (sheet : Sheet) (place : Nat) (cells : List String) : Sheet :=
  { sheet with rows := sheet.rows.insertIdx place cells }

/-- The cells make a blank row: they are blank in the columns of the keys, of
the attributes and of the locales.  A header with a fault names no columns. -/
def BlankRow (sheet : Sheet) (cells : List String) : Prop :=
  sheet.HeaderFits →
    ∀ column < sheet.attributeColumn + 1 + sheet.localeRun.length,
      cells[column]?.getD "" = ""

theorem cell_insertRow_of_lt (above : row < place) :
    (sheet.insertRow place cells).cell row column = sheet.cell row column := by
  rw [cell, insertRow, List.getElem?_insertIdx_of_lt above, cell]

theorem cell_insertRow_self (within : place ≤ sheet.rows.length) :
    (sheet.insertRow place cells).cell place column =
      cells[column]?.getD "" := by
  rw [cell, insertRow, List.getElem?_insertIdx_self, if_pos within,
    Option.bind_some]

theorem cell_insertRow_of_ge (under : place ≤ row) :
    (sheet.insertRow place cells).cell (row + 1) column =
      sheet.cell row column := by
  rw [cell, insertRow, List.getElem?_insertIdx_of_gt (Nat.lt_succ_of_le under)]
  rfl

theorem cell_insertRow :
    (sheet.insertRow place cells).cell (placeAfterInsert place row) column =
      sheet.cell row column := by
  rw [placeAfterInsert]
  split
  · rename_i above
    exact cell_insertRow_of_lt above
  · rename_i under
    exact cell_insertRow_of_ge (Nat.le_of_not_lt under)

theorem length_insertRow (within : place ≤ sheet.rows.length) :
    (sheet.insertRow place cells).rows.length = sheet.rows.length + 1 :=
  List.length_insertIdx_of_le_length within cells

theorem headD_insertRow (sheet : Sheet) (cells : List String)
    (below : 0 < place) :
    (sheet.insertRow place cells).rows.headD [] = sheet.rows.headD [] := by
  rw [List.headD_eq_head?_getD, List.headD_eq_head?_getD,
    List.head?_eq_getElem?, List.head?_eq_getElem?, insertRow,
    List.getElem?_insertIdx_of_lt below]

end Sheet

namespace Layout

variable {layout : Layout} {sheet other : Sheet} {move : Nat → Nat}

/-- A row with the cells of another one is read to the same entry, but for its
number. -/
theorem readRow_of_cells {row row' : Nat}
    (same : ∀ column, other.cell row' column = sheet.cell row column)
    (numbered : move (row + 1) = row' + 1) :
    layout.readRow other row' =
      (layout.readRow sheet row).moveRow move := by
  simp only [readRow, keyColumn?, rowValues, same]
  split
  · simp [RowKind.moveRow, Entry.moveRow, numbered]
  · split <;> rfl

/-- Rows whose cells stand in other places are read to the entries they were,
but for their numbers. -/
theorem readRows_map {follow : Nat → Nat}
    (same : ∀ row column, other.cell (follow row) column =
      sheet.cell row column)
    (numbered : ∀ row, move (row + 1) = follow row + 1) (rows : List Nat) :
    layout.readRows other (rows.map follow) =
      ((layout.readRows sheet rows).1.map (Entry.moveRow move),
        (layout.readRows sheet rows).2.map move) := by
  induction rows with
  | nil => rfl
  | cons row rows induction =>
      rw [List.map_cons, readRows, readRows,
        readRow_of_cells (same row) (numbered row), induction]
      cases layout.readRow sheet row <;> simp [RowKind.moveRow, numbered]

/-- A blank row among the others gives nothing. -/
theorem readRows_insert_blank {before after : List Nat} {row : Nat}
    (blank : layout.readRow sheet row = .blank) :
    layout.readRows sheet (before ++ row :: after) =
      layout.readRows sheet (before ++ after) := by
  induction before with
  | nil => rw [List.nil_append, readRows, blank, List.nil_append]
  | cons first before induction =>
      rw [List.cons_append, List.cons_append, readRows, readRows, induction]

/-- The rows below the path row stand before and after the one put in. -/
theorem exists_split_range' {place : Nat} (count : Nat) (below : 2 ≤ place)
    (within : place ≤ count + 2) :
    ∃ before after, List.range' 2 count = before ++ after ∧
      List.range' 2 (count + 1) = before.map (placeAfterInsert place) ++
        place :: after.map (placeAfterInsert place) := by
  obtain ⟨above, rfl⟩ := Nat.exists_eq_add_of_le below
  obtain ⟨later, rfl⟩ : ∃ later, count = above + later :=
    Nat.exists_eq_add_of_le (by omega)
  have kept : (List.range' 2 above).map (placeAfterInsert (2 + above)) =
      List.range' 2 above := by
    rw [← List.map_id (List.range' 2 above), List.map_map]
    exact List.map_congr_left fun row member =>
      if_pos (List.mem_range'_1.mp member).2
  have moved : (List.range' (2 + above) later).map
      (placeAfterInsert (2 + above)) = List.range' (2 + above + 1) later := by
    rw [List.range'_succ_left]
    exact List.map_congr_left fun row member =>
      if_neg (Nat.not_lt_of_le (List.mem_range'_1.mp member).1)
  refine ⟨List.range' 2 above, List.range' (2 + above) later,
    List.range'_append_1.symm, ?_⟩
  rw [kept, moved, ← List.range'_succ, List.range'_append_1, Nat.add_assoc]

variable {place : Nat} {cells : List String}

/-- Around a blank row that is put in, the entries and the first orphan row are
what they were, but for their numbers. -/
theorem readEntries_insertRow (below : 2 ≤ place)
    (within : place ≤ sheet.rows.length)
    (blank : layout.readRow (sheet.insertRow place cells) place = .blank) :
    layout.readEntries (sheet.insertRow place cells) =
      ((layout.readEntries sheet).1.map
          (Entry.moveRow (rowAfterInsert place)),
        (layout.readEntries sheet).2.map (rowAfterInsert place)) := by
  obtain ⟨before, after, rows, rows'⟩ :=
    exists_split_range' (sheet.rows.length - 2) below (by omega)
  have count : sheet.rows.length + 1 - 2 = sheet.rows.length - 2 + 1 := by
    omega
  rw [readEntries, readEntries, List.range_eq_range', List.range_eq_range',
    List.drop_range', List.drop_range', Sheet.length_insertRow within, count]
  simp only [Nat.zero_add, Nat.mul_one]
  rw [rows, rows', readRows_insert_blank blank, ← List.map_append]
  exact readRows_map (fun _ _ => Sheet.cell_insertRow)
    (rowAfterInsert_succ place) _

theorem readPaths_insertRow (below : 2 ≤ place) :
    layout.readPaths (sheet.insertRow place cells) = layout.readPaths sheet :=
  readPaths_congr fun _ => Sheet.cell_insertRow_of_lt below

theorem readRow_insertRow (headed : ofHeader (sheet.rows.headD []) = .ok layout)
    (within : place ≤ sheet.rows.length) (blankRow : sheet.BlankRow cells) :
    layout.readRow (sheet.insertRow place cells) place = .blank := by
  obtain ⟨describes, fits⟩ := ofHeader_eq_ok headed
  apply readRow_eq_blank
  rw [describes.column, describes.locales]
  intro column inside
  rw [Sheet.cell_insertRow_self within]
  exact blankRow fits column inside

theorem moveRow_of_ofHeader {header : List String} {fault : LayoutFault}
    (read : ofHeader header = .error fault) : fault.moveRow move = fault := by
  unfold ofHeader at read
  split at read
  · cases read
    rfl
  · cases read
    rfl
  · rcases Outcome.bind_eq_error.mp read with failed | ⟨locales, -, checked⟩
    · obtain ⟨locale, before, after, -, -, -, rfl⟩ :=
        readLocales_eq_error List.nodup_nil failed
      rfl
    · split at checked
      · cases checked
        rfl
      · cases checked

theorem moveRow_of_readPaths {fault : LayoutFault}
    (read : layout.readPaths sheet = .error fault) :
    fault.moveRow move = fault := by
  unfold readPaths at read
  split at read
  · cases read
    rfl
  · obtain ⟨before, place, after, -, -, blank⟩ :=
      Outcome.mapM_eq_error (readPath sheet) read
    unfold readPath at blank
    split at blank
    · cases blank
      rfl
    · cases blank

end Layout

namespace Page

variable {sheet : Sheet} {place : Nat} {cells : List String}

theorem gapsBelow_map_moveRow (sheet : String) (move : Nat → Nat)
    {moved opened : Outline.Opened} {depths : List Nat}
    (movedHas : moved.HasDepths depths) (has : opened.HasDepths depths)
    (entries : List Entry) :
    gapsBelow sheet moved (entries.map (Entry.moveRow move)) =
      (gapsBelow sheet opened entries).map (DepthGap.moveRow move) := by
  induction entries generalizing moved opened depths with
  | nil => rfl
  | cons entry entries induction =>
      rw [List.map_cons, gapsBelow, gapsBelow,
        induction (movedHas.read (entry.moveRow move)) (has.read entry),
        (movedHas.close _).depth_top, (has.close _).depth_top,
        apply_ite (List.map (DepthGap.moveRow move)), List.map_cons]
      rfl

/-- With a blank row inserted, the rows of a page move, and so does the row of a
fault.  Only an orphan row is reported with its number, and it is looked for
last. -/
theorem parse_insertRow_eq (below : 2 ≤ place)
    (within : place ≤ sheet.rows.length) (blankRow : sheet.BlankRow cells) :
    parse (sheet.insertRow place cells) =
      ((parse sheet).map (moveRows (rowAfterInsert place))).mapError
        (LayoutError.moveRow (rowAfterInsert place)) := by
  have filled : sheet.rows ≠ [] :=
    List.ne_nil_of_length_pos (by omega)
  have filled' : (sheet.insertRow place cells).rows ≠ [] :=
    List.ne_nil_of_length_pos (by rw [Sheet.length_insertRow within]; omega)
  have header := Sheet.headD_insertRow sheet cells (Nat.lt_of_succ_lt below)
  have reported {fault : LayoutFault}
      (kept : fault.moveRow (rowAfterInsert place) = fault) :
      (.error ⟨sheet.name, fault⟩ : Except LayoutError Page) =
        .error (LayoutError.moveRow (rowAfterInsert place)
          ⟨sheet.name, fault⟩) := by
    rw [LayoutError.moveRow, kept]
  have rooted : Entry.root.moveRow (rowAfterInsert place) = .root := by
    rw [Entry.moveRow, Entry.root, rowAfterInsert_zero]
  rw [parse_of_rows_ne_nil filled, parse_of_rows_ne_nil filled', header]
  cases headed : Layout.ofHeader (sheet.rows.headD []) with
  | error fault => exact reported (Layout.moveRow_of_ofHeader headed)
  | ok layout =>
      simp only [bind, Except.bind, Layout.readPaths_insertRow below]
      cases found : layout.readPaths sheet with
      | error fault => exact reported (Layout.moveRow_of_readPaths found)
      | ok paths =>
          have blank := Layout.readRow_insertRow headed within blankRow
          simp only [Layout.readEntries_insertRow below within blank]
          obtain ⟨entries, orphan⟩ := layout.readEntries sheet
          cases orphan with
          | some row => rfl
          | none =>
              simp only [Option.map_none, Outline.ofEntries_map_of_moves
                (Entry.movesRows_moveRow (rowAfterInsert place)) rooted]
              rfl

theorem depthGaps_insertRow (below : 2 ≤ place)
    (within : place ≤ sheet.rows.length) (blankRow : sheet.BlankRow cells) :
    depthGaps (sheet.insertRow place cells) =
      (depthGaps sheet).map (DepthGap.moveRow (rowAfterInsert place)) := by
  have header := Sheet.headD_insertRow sheet cells (Nat.lt_of_succ_lt below)
  rw [depthGaps, depthGaps, header]
  cases headed : Layout.ofHeader (sheet.rows.headD []) with
  | error fault => rfl
  | ok layout =>
      simp only [Layout.readPaths_insertRow below]
      cases layout.readPaths sheet with
      | error fault => rfl
      | ok paths =>
          have blank := Layout.readRow_insertRow headed within blankRow
          simp only [Layout.readEntries_insertRow below within blank]
          exact gapsBelow_map_moveRow sheet.name _
            Outline.Opened.hasDepths_start Outline.Opened.hasDepths_start _

/-- Moving the rows of a page moves the row of the error and nothing else. -/
theorem render_moveRows (move : Nat → Nat) (page : Page) (locale : String)
    (placement : LangPlacement) :
    (page.moveRows move).render locale placement =
      (page.render locale placement).mapError (RenderError.moveRow move) := by
  have moved : (page.moveRows move).root.render locale page.locales =
      (page.root.render locale page.locales).mapError
        (RenderError.moveRow move) :=
    Outline.render_mapEntries_of_moves (Entry.movesRows_moveRow move)
      fun _ _ => rfl
  have kept : (page.moveRows move).hasLocale locale = page.hasLocale locale :=
    rfl
  rw [render, render, kept]
  split
  · rw [Outcome.mapError_map, ← moved]
    rfl
  · rfl

/-- A blank row put in below the path row adds one to the numbers of the rows
after it, and changes nothing else: neither the page and its warnings, nor the
fault of the sheet if it has one, nor what the page is rendered to in any
locale, document or error. -/
theorem parse_insertRow (below : 2 ≤ place)
    (within : place ≤ sheet.rows.length) (blankRow : sheet.BlankRow cells) :
    (∀ page, parse sheet = .ok page →
      parse (sheet.insertRow place cells) =
          .ok (page.moveRows (rowAfterInsert place)) ∧
        ∀ locale placement,
          (page.moveRows (rowAfterInsert place)).render locale placement =
            (page.render locale placement).mapError
              (RenderError.moveRow (rowAfterInsert place))) ∧
    (∀ error, parse sheet = .error error →
      parse (sheet.insertRow place cells) =
        .error (error.moveRow (rowAfterInsert place))) ∧
    depthGaps (sheet.insertRow place cells) =
      (depthGaps sheet).map (DepthGap.moveRow (rowAfterInsert place)) := by
  have reading := parse_insertRow_eq below within blankRow
  refine ⟨?_, ?_, depthGaps_insertRow below within blankRow⟩
  · intro page parsed
    rw [parsed] at reading
    exact ⟨reading, render_moveRows (rowAfterInsert place) page⟩
  · intro error failed
    rw [failed] at reading
    exact reading

/-- A sheet with an element that skips a level, and a void one with a value. -/
def crowdedSheet : Sheet :=
  ⟨"crowded",
    [["", "", "", "attribute", "en"], ["path", "", "", "", "/index.html"],
     ["body"], ["", "", "hr", "", "rule"]]⟩

/-- A sheet with a value that belongs to nothing. -/
def strayedSheet : Sheet :=
  ⟨"strayed",
    [["", "attribute", "en"], ["path", "", "/index.html"], ["body"],
     ["", "", "stray"]]⟩

/-- A note is put in between an element and what stands below it. -/
theorem parse_insertRow_notes :
    (2 ≤ 3 ∧ 3 ≤ crowdedSheet.rows.length ∧
      crowdedSheet.BlankRow ["", "", "", "", "", "note"] ∧
      ∃ page, parse crowdedSheet = .ok page ∧
        page.render "en" .root = .error (.voidContent 4 "hr") ∧
        parse (crowdedSheet.insertRow 3 ["", "", "", "", "", "note"]) =
          .ok (page.moveRows (rowAfterInsert 3)) ∧
        (page.moveRows (rowAfterInsert 3)).render "en" .root =
          .error (.voidContent 5 "hr") ∧
        depthGaps (crowdedSheet.insertRow 3 ["", "", "", "", "", "note"]) =
          [⟨"crowded", 5, "hr"⟩]) ∧
    2 ≤ 2 ∧ 2 ≤ strayedSheet.rows.length ∧ strayedSheet.BlankRow [] ∧
      parse strayedSheet = .error ⟨"strayed", .orphanValues 4⟩ ∧
      parse (strayedSheet.insertRow 2 []) =
        .error ⟨"strayed", .orphanValues 5⟩ := by
  constructor
  · have below : 2 ≤ 3 := by decide
    have within : 3 ≤ crowdedSheet.rows.length := by decide
    have blankRow : crowdedSheet.BlankRow ["", "", "", "", "", "note"] :=
      fun _ => by decide
    have failed : (parse crowdedSheet).toOption.map (fun page =>
        Outcome.failure? (page.render "en" .root)) =
          some (some (.voidContent 4 "hr")) := by decide +kernel
    have warned : depthGaps crowdedSheet = [⟨"crowded", 4, "hr"⟩] := by
      decide +kernel
    obtain ⟨page, found, stopped⟩ := Option.map_eq_some_iff.mp failed
    have parsed := Outcome.eq_ok_of_toOption found
    have stopped := Outcome.failure?_eq_some_iff.mp stopped
    obtain ⟨reading, -, gaps⟩ := parse_insertRow below within blankRow
    obtain ⟨parsed', rendered⟩ := reading page parsed
    refine ⟨below, within, blankRow, page, parsed, stopped, parsed', ?_, ?_⟩
    · rw [rendered, stopped]
      rfl
    · rw [gaps, warned]
      rfl
  · have within : 2 ≤ strayedSheet.rows.length := by decide
    have blankRow : strayedSheet.BlankRow [] := fun _ => by decide
    have failed : Outcome.failure? (parse strayedSheet) =
        some ⟨"strayed", .orphanValues 4⟩ := by decide +kernel
    have failed := Outcome.failure?_eq_some_iff.mp failed
    obtain ⟨-, stopped, -⟩ := parse_insertRow (Nat.le_refl 2) within blankRow
    exact ⟨Nat.le_refl 2, within, blankRow, failed, stopped _ failed⟩

end Page

end WorkbookSite

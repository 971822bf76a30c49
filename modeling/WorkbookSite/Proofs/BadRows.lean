import WorkbookSite.Proofs.AlikeLocales

/-!
# Bad rows

A row of a sheet is bad in a locale if its element is unknown, if it is void and
has a value or an element row below it, or if its value is no fragment of its
element.  A page is rendered exactly if none of its element rows is bad, and
otherwise the bad row with the smallest number is reported; attribute rows never
stop it.
-/

namespace WorkbookSite

/-- In a list in increasing order, the first item with a value is the least of
those that have one. -/
theorem findSome?_eq_some_iff_of_sorted {α β : Type} {items : List α}
    {number : α → Nat} {value? : α → Option β}
    (sorted : items.Pairwise (number · < number ·)) {value : β} :
    items.findSome? value? = some value ↔
      ∃ item ∈ items, value? item = some value ∧
        ∀ other ∈ items, (value? other).isSome = true →
          number item ≤ number other := by
  induction items with
  | nil => simp
  | cons first items induction =>
      obtain ⟨above, sorted⟩ := List.pairwise_cons.mp sorted
      rw [List.findSome?_cons]
      cases here : value? first with
      | some found =>
          constructor
          · intro same
            refine ⟨first, List.mem_cons_self, here.trans same, ?_⟩
            intro other listed _
            rcases List.mem_cons.mp listed with rfl | later
            · exact Nat.le_refl _
            · exact Nat.le_of_lt (above other later)
          · rintro ⟨item, listed, valued, least⟩
            rcases List.mem_cons.mp listed with rfl | later
            · exact here.symm.trans valued
            · have order := least first List.mem_cons_self (by simp [here])
              exact absurd (above item later) (Nat.not_lt_of_le order)
      | none =>
          rw [induction sorted]
          constructor
          · rintro ⟨item, listed, valued, least⟩
            refine ⟨item, List.mem_cons_of_mem _ listed, valued, ?_⟩
            intro other within valuedOther
            rcases List.mem_cons.mp within with rfl | later
            · simp [here] at valuedOther
            · exact least other later valuedOther
          · rintro ⟨item, listed, valued, least⟩
            rcases List.mem_cons.mp listed with rfl | later
            · simp [here] at valued
            · exact ⟨item, later, valued, fun other within =>
                least other (List.mem_cons_of_mem _ within)⟩

/-- The number of the row that an error of a rendering reports. -/
def RenderError.row? : RenderError → Option Nat
  | .unknownElement row _ => some row
  | .fragment row _ _ _ => some row
  | .voidContent row _ => some row
  | .unknownLocale _ _ => none

namespace Entry

variable {entries : List Entry} {entry : Entry} {locale : String}
  {order : List String}

/-- Of the rows that are elements, one stands directly below the entry: the
entry is the nearest earlier one that lies less deep. -/
def HasElementBelow (entry : Entry) (entries : List Entry) : Prop :=
  ∃ before child after, entries = before ++ child :: after ∧
    child.isAttribute = false ∧ nearestShallower before child.depth = entry

/-- A void element that has a value or an element below it. -/
def IsOverfilled (entry : Entry) (entries : List Entry) (locale : String)
    (order : List String) : Prop :=
  Markup.isVoid entry.key = true ∧
    (entry.bestValue locale order ≠ "" ∨ entry.HasElementBelow entries)

def IsBad (entry : Entry) (entries : List Entry) (locale : String)
    (order : List String) : Prop :=
  Markup.isElement entry.key = false ∨
    entry.IsOverfilled entries locale order ∨
    ∃ cause, entry.IsRefused locale order cause

/-- What is reported of a bad row: an unknown element comes before content that
a void element cannot have, and this before a value that is refused. -/
inductive StopsWith (entry : Entry) (entries : List Entry) (locale : String)
    (order : List String) : RenderError → Prop where
  | unknownElement :
      Markup.isElement entry.key = false →
      StopsWith entry entries locale order
        (.unknownElement entry.row entry.key)
  | voidContent :
      Markup.isElement entry.key = true →
      entry.IsOverfilled entries locale order →
      StopsWith entry entries locale order (.voidContent entry.row entry.key)
  | fragment {cause : Markup.FragmentError} :
      Markup.isElement entry.key = true →
      ¬ entry.IsOverfilled entries locale order →
      entry.IsRefused locale order cause →
      StopsWith entry entries locale order
        (.fragment entry.row locale (entry.bestValue locale order) cause)

theorem isBad_iff_exists_stopsWith :
    entry.IsBad entries locale order ↔
      ∃ error, entry.StopsWith entries locale order error := by
  constructor
  · intro bad
    cases known : Markup.isElement entry.key with
    | false => exact ⟨_, .unknownElement known⟩
    | true =>
        by_cases overfilled : entry.IsOverfilled entries locale order
        · exact ⟨_, .voidContent known overfilled⟩
        · rcases bad with unknown | full | ⟨cause, refused⟩
          · simp [known] at unknown
          · exact absurd full overfilled
          · exact ⟨_, .fragment known overfilled refused⟩
  · rintro ⟨error, stops⟩
    cases stops with
    | unknownElement unknown => exact .inl unknown
    | voidContent _ overfilled => exact .inr (.inl overfilled)
    | fragment _ _ refused => exact .inr (.inr ⟨_, refused⟩)

theorem StopsWith.row?_eq {error : RenderError}
    (stops : entry.StopsWith entries locale order error) :
    error.row? = some entry.row := by
  cases stops with
  | unknownElement | voidContent | fragment => rfl

end Entry

namespace Outline

variable {locale : String} {order : List String}

mutual

/-- What is rendered is the skeleton of the outline. -/
theorem entries_rendered (outline : Outline) :
    outline.rendered.map entry = outline.skeleton.preorder.map entry := by
  cases outline with
  | node top children =>
      rw [rendered, skeleton, preorder, List.map_cons, List.map_cons,
        entries_renderedList]
      rfl

theorem entries_renderedList (outlines : List Outline) :
    (renderedList outlines).map entry =
      (preorderList (skeletonList outlines)).map entry := by
  cases outlines with
  | nil => rfl
  | cons outline outlines =>
      rw [renderedList, skeletonList]
      split
      · exact entries_renderedList outlines
      · rw [List.map_append, preorderList, List.map_append,
          entries_rendered outline, entries_renderedList outlines]

end

/-- In the outline of a list of entries, what has elements below it is what the
entries nest elements below. -/
theorem any_isElement_iff {entries : List Entry}
    (deep : ∀ entry ∈ entries, 0 < entry.depth)
    (different : ((ofEntries entries).walk.map entry).Nodup)
    {visited : Outline} (member : visited ∈ (ofEntries entries).walk) :
    visited.children.any (!·.entry.isAttribute) = true ↔
      visited.entry.HasElementBelow entries := by
  have split : ∀ child, (ofEntries entries).StandsUnder child visited.entry ↔
      ∃ before after, entries = before ++ child :: after ∧
        visited.entry = nearestShallower before child.depth := by
    intro child
    rw [standsUnder_iff_mem_edges, edges_ofEntries deep, mem_nearestEdges_iff]
    rfl
  rw [List.any_eq_true]
  constructor
  · rintro ⟨child, below, isElement⟩
    obtain ⟨before, after, spelled, nearest⟩ := (split child.entry).mp
      ⟨visited, member, rfl, child, below, rfl⟩
    exact ⟨before, child.entry, after, spelled, by simpa using isElement,
      nearest.symm⟩
  · rintro ⟨before, child, after, spelled, isElement, nearest⟩
    obtain ⟨above, there, same, below, isChild, rfl⟩ :=
      (split child).mpr ⟨before, after, spelled, nearest.symm⟩
    obtain rfl := List.inj_on_of_nodup_map different there member same
    exact ⟨below, isChild, by simpa using isElement⟩

/-- The fault of an element that is rendered is what its row is stopped with. -/
theorem fault?_eq_some_iff {entries : List Entry} {visited : Outline}
    (below : visited.children.any (!·.entry.isAttribute) = true ↔
      visited.entry.HasElementBelow entries) {error : RenderError} :
    visited.fault? locale order = some error ↔
      visited.entry.StopsWith entries locale order error := by
  obtain ⟨entry, children⟩ := visited
  rw [Outline.children, Outline.entry] at below
  have overfilled : (Markup.isVoid entry.key &&
      (entry.bestValue locale order != "" ||
        children.any (!·.entry.isAttribute))) = true ↔
          entry.IsOverfilled entries locale order := by
    rw [Bool.and_eq_true, Bool.or_eq_true, bne_iff_ne, below]
    rfl
  rw [fault?, structuralFault?, Outline.entry]
  cases known : Markup.isElement entry.key with
  | false =>
      constructor
      · rintro ⟨rfl⟩
        exact .unknownElement known
      · intro stops
        cases stops with
        | unknownElement => rfl
        | voidContent element => simp [known] at element
        | fragment element => simp [known] at element
  | true =>
      simp only [Bool.not_true, Bool.false_eq_true, if_false]
      by_cases full : entry.IsOverfilled entries locale order
      · rw [if_pos (overfilled.mpr full)]
        constructor
        · rintro ⟨rfl⟩
          exact .voidContent known full
        · intro stops
          cases stops with
          | unknownElement unknown => simp [known] at unknown
          | voidContent => rfl
          | fragment _ plain => exact absurd full plain
      · rw [if_neg (full ∘ overfilled.mp), Option.none_or,
          Outcome.failure?_eq_some_iff, Entry.renderValue_eq_error_iff]
        constructor
        · rintro ⟨cause, refused, rfl⟩
          exact .fragment known full refused
        · intro stops
          cases stops with
          | unknownElement unknown => simp [known] at unknown
          | voidContent _ overfull => exact absurd overfull full
          | fragment _ _ refused => exact ⟨_, refused, rfl⟩

end Outline

namespace Page

variable {sheet : Sheet} {page : Page} {locale : String}
  {placement : LangPlacement}

/-- What is rendered of a page are the root and the element rows of its sheet,
from top to bottom. -/
theorem entries_rendered_of_parse (parsed : parse sheet = .ok page) :
    page.root.rendered.map (·.entry) =
      .root :: sheet.entries.filter (!·.isAttribute) := by
  have shape := attributesDeepest_of_standsIn sheet.standsIn_entries
  rw [Outline.entries_rendered, root_of_parse parsed,
    Outline.skeleton_ofEntries shape, ← Outline.walk_eq_preorder]
  exact Outline.walk_ofEntries _

theorem entries_different_of_parse (parsed : parse sheet = .ok page) :
    (page.root.walk.map (·.entry)).Nodup := by
  have sorted := sorted_of_parse parsed
  rw [← List.pairwise_map (f := Outline.entry) (R := (·.row < ·.row))] at sorted
  exact sorted.imp fun order same => by
    rw [same] at order
    exact Nat.lt_irrefl _ order

theorem fault?_eq_some_iff_of_parse (parsed : parse sheet = .ok page)
    {visited : Outline} (member : visited ∈ page.root.rendered)
    {order : List String} {error : RenderError} :
    visited.fault? locale order = some error ↔
      visited.entry.StopsWith sheet.entries locale order error := by
  have standing := sheet.standsIn_entries
  have different := entries_different_of_parse parsed
  have walked : visited ∈ page.root.walk := by
    rw [Outline.walk_eq_preorder]
    exact (Outline.rendered_sublist page.root).subset member
  rw [root_of_parse parsed] at different walked
  exact Outline.fault?_eq_some_iff
    (Outline.any_isElement_iff (deep_of_standsIn standing) different walked)

/-- The root is no row, and it can always be rendered. -/
theorem not_stopsWith_root {entries : List Entry} {order : List String}
    {error : RenderError} :
    ¬ Entry.root.StopsWith entries locale order error := by
  have blank : Entry.root.bestValue locale order = "" :=
    ((Entry.valuesFit_root order).bestValue_eq_empty_iff locale).mpr rfl
  intro stops
  cases stops with
  | unknownElement unknown => exact absurd unknown (by decide)
  | voidContent _ overfilled => exact absurd overfilled.1 (by decide)
  | fragment _ _ refused => exact refused.1 blank

theorem isSome_fault?_iff_of_parse (parsed : parse sheet = .ok page)
    {visited : Outline} (member : visited ∈ page.root.rendered)
    {order : List String} :
    (visited.fault? locale order).isSome = true ↔
      visited.entry.IsBad sheet.entries locale order := by
  rw [Option.isSome_iff_exists, Entry.isBad_iff_exists_stopsWith]
  exact exists_congr fun _ => fault?_eq_some_iff_of_parse parsed member

/-- The bad ones among what is rendered are the bad element rows. -/
theorem exists_rendered_iff_of_parse (parsed : parse sheet = .ok page)
    {order : List String} {entry : Entry}
    (isBad : entry.IsBad sheet.entries locale order) :
    (∃ visited ∈ page.root.rendered, visited.entry = entry) ↔
      entry ∈ sheet.entries ∧ entry.isAttribute = false := by
  have other : entry ≠ .root := by
    rintro rfl
    obtain ⟨error, stops⟩ := Entry.isBad_iff_exists_stopsWith.mp isBad
    exact not_stopsWith_root stops
  rw [← List.mem_map, entries_rendered_of_parse parsed, List.mem_cons,
    List.mem_filter]
  simp [other]

/-- A page is rendered exactly if none of its element rows is bad. -/
theorem exists_render_iff (parsed : parse sheet = .ok page)
    (listed : locale ∈ page.locales) :
    (∃ document, page.render locale placement = .ok document) ↔
      ∀ entry ∈ sheet.entries, entry.isAttribute = false →
        ¬ entry.IsBad sheet.entries locale page.locales := by
  have sound : (∃ document, page.render locale placement = .ok document) ↔
      page.root.rendered.findSome? (Outline.fault? locale page.locales) =
        none := by
    have failed : Outcome.failure? (page.render locale placement) = _ :=
      failure?_render listed
    rw [← failed]
    cases page.render locale placement <;> simp [Outcome.failure?]
  rw [sound, List.findSome?_eq_none_iff]
  constructor
  · intro faultless entry member isElement isBad
    obtain ⟨visited, there, rfl⟩ :=
      (exists_rendered_iff_of_parse parsed isBad).mpr ⟨member, isElement⟩
    rw [← isSome_fault?_iff_of_parse parsed there, faultless visited there]
      at isBad
    cases isBad
  · intro good visited there
    by_contra faulty
    have isBad := (isSome_fault?_iff_of_parse parsed there).mp
      (Option.isSome_iff_ne_none.mpr faulty)
    obtain ⟨member, isElement⟩ :=
      (exists_rendered_iff_of_parse parsed isBad).mp ⟨visited, there, rfl⟩
    exact good _ member isElement isBad

/-- A rendering is stopped with what is wrong with the first bad element row. -/
theorem render_eq_error_iff (parsed : parse sheet = .ok page)
    (listed : locale ∈ page.locales) {error : RenderError} :
    page.render locale placement = .error error ↔
      ∃ entry ∈ sheet.entries, entry.isAttribute = false ∧
        (∀ other ∈ sheet.entries, other.isAttribute = false →
          other.IsBad sheet.entries locale page.locales →
            entry.row ≤ other.row) ∧
        entry.StopsWith sheet.entries locale page.locales error := by
  rw [← Outcome.failure?_eq_some_iff, failure?_render listed,
    findSome?_eq_some_iff_of_sorted (rendered_sorted_of_parse parsed)]
  constructor
  · rintro ⟨visited, there, faulty, least⟩
    have stops := (fault?_eq_some_iff_of_parse parsed there).mp faulty
    obtain ⟨member, isElement⟩ := (exists_rendered_iff_of_parse parsed
      (Entry.isBad_iff_exists_stopsWith.mpr ⟨error, stops⟩)).mp
        ⟨visited, there, rfl⟩
    refine ⟨visited.entry, member, isElement, ?_, stops⟩
    intro other within element isBad
    obtain ⟨outline, listed, rfl⟩ :=
      (exists_rendered_iff_of_parse parsed isBad).mpr ⟨within, element⟩
    exact least outline listed
      ((isSome_fault?_iff_of_parse parsed listed).mpr isBad)
  · rintro ⟨entry, member, isElement, least, stops⟩
    obtain ⟨visited, there, rfl⟩ := (exists_rendered_iff_of_parse parsed
      (Entry.isBad_iff_exists_stopsWith.mpr ⟨error, stops⟩)).mpr
        ⟨member, isElement⟩
    refine ⟨visited, there,
      (fault?_eq_some_iff_of_parse parsed there).mpr stops, ?_⟩
    intro other listed faulty
    have isBad := (isSome_fault?_iff_of_parse parsed listed).mp faulty
    obtain ⟨within, element⟩ :=
      (exists_rendered_iff_of_parse parsed isBad).mp ⟨other, listed, rfl⟩
    exact least other.entry within element isBad

theorem eq_of_row_eq_of_parse (parsed : parse sheet = .ok page)
    {first second : Entry} (here : first ∈ sheet.entries)
    (there : second ∈ sheet.entries) (same : first.row = second.row) :
    first = second := by
  have sorted := sorted_of_parse parsed
  rw [← List.pairwise_map (f := Outline.entry) (R := (·.row < ·.row)),
    root_of_parse parsed, Outline.walk_ofEntries] at sorted
  have numbers : (sheet.entries.map (·.row)).Nodup :=
    List.pairwise_map.mpr ((List.pairwise_cons.mp sorted).2.imp Nat.ne_of_lt)
  exact List.inj_on_of_nodup_map numbers here there same

/-- A page is rendered in one of its locales exactly if no element row of its
sheet is bad there.  Otherwise the bad element row with the smallest number is
reported, with what is wrong with it first; no error has the number of an
attribute row. -/
theorem render_outcome_of_parse (parsed : parse sheet = .ok page)
    (listed : locale ∈ page.locales) :
    ((∃ document, page.render locale placement = .ok document) ↔
      ∀ entry ∈ sheet.entries, entry.isAttribute = false →
        ¬ entry.IsBad sheet.entries locale page.locales) ∧
    (∀ error, page.render locale placement = .error error ↔
      ∃ entry ∈ sheet.entries, entry.isAttribute = false ∧
        entry.IsBad sheet.entries locale page.locales ∧
        (∀ other ∈ sheet.entries, other.isAttribute = false →
          other.IsBad sheet.entries locale page.locales →
            entry.row ≤ other.row) ∧
        entry.StopsWith sheet.entries locale page.locales error) ∧
    ∀ error, page.render locale placement = .error error →
      ∀ entry ∈ sheet.entries, entry.isAttribute = true →
        error.row? ≠ some entry.row := by
  refine ⟨exists_render_iff parsed listed, ?_, ?_⟩
  · intro error
    rw [render_eq_error_iff parsed listed]
    constructor
    · rintro ⟨entry, member, isElement, least, stops⟩
      exact ⟨entry, member, isElement,
        Entry.isBad_iff_exists_stopsWith.mpr ⟨error, stops⟩, least, stops⟩
    · rintro ⟨entry, member, isElement, -, least, stops⟩
      exact ⟨entry, member, isElement, least, stops⟩
  · intro error failed entry member isAttribute numbered
    obtain ⟨row, within, isElement, -, stops⟩ :=
      (render_eq_error_iff parsed listed).mp failed
    rw [stops.row?_eq, Option.some.injEq] at numbered
    obtain rfl := eq_of_row_eq_of_parse parsed within member numbered
    simp [isElement] at isAttribute

theorem exists_stopped_of_failure? (sheet : Sheet) (locale : String)
    (placement : LangPlacement) (error : RenderError)
    (failed : (parse sheet).toOption.any (fun page =>
      page.hasLocale locale &&
        Outcome.failure? (page.render locale placement) == some error) =
          true) :
    ∃ page, parse sheet = .ok page ∧ locale ∈ page.locales ∧
      page.render locale placement = .error error := by
  obtain ⟨page, parsed, shown⟩ := (Option.any_eq_true _ _).mp failed
  obtain ⟨listed, stopped⟩ := Bool.and_eq_true_iff.mp shown
  exact ⟨page, Outcome.eq_ok_of_toOption parsed,
    by simpa [hasLocale] using listed,
    Outcome.failure?_eq_some_iff.mp (eq_of_beq stopped)⟩

/-- A sheet with an attribute that has no element's name, and an unknown element
below a void one. -/
def overfilledSheet : Sheet :=
  ⟨"overfilled",
    [["", "", "attribute", "en"], ["path", "", "", "/index.html"], ["body"],
     ["", "", "no such", "a <b>"], ["hr"], ["", "no such", "", "a <b>"]]⟩

/-- A sheet with a value that is no fragment, above an unknown element. -/
def unclosedSheet : Sheet :=
  ⟨"unclosed",
    [["", "attribute", "en", "de"], ["path", "", "/en", "/de"],
     ["p", "", "a", "a <b>b"], ["no such", "", "c"]]⟩

/-- In the first sheet no row is bad.  In the second one two are, and the void
element comes before the unknown one below it.  In the third one, the value
that is no fragment comes before the unknown element. -/
theorem render_outcome_sheets :
    (∃ page, parse mixedSheet = .ok page ∧ "de" ∈ page.locales ∧
      (∃ document, page.render "de" .root = .ok document) ∧
      ∀ entry ∈ mixedSheet.entries, entry.isAttribute = false →
        ¬ entry.IsBad mixedSheet.entries "de" page.locales) ∧
    (∃ page, parse overfilledSheet = .ok page ∧ "en" ∈ page.locales ∧
      page.render "en" .root = .error (.voidContent 5 "hr") ∧
      ∃ entry ∈ overfilledSheet.entries, entry.isAttribute = false ∧
        entry.IsBad overfilledSheet.entries "en" page.locales ∧
        (∀ other ∈ overfilledSheet.entries, other.isAttribute = false →
          other.IsBad overfilledSheet.entries "en" page.locales →
            entry.row ≤ other.row) ∧
        entry.StopsWith overfilledSheet.entries "en" page.locales
          (.voidContent 5 "hr")) ∧
    ∃ page, parse unclosedSheet = .ok page ∧ "de" ∈ page.locales ∧
      page.render "de" .root =
        .error (.fragment 3 "de" "a <b>b" (.unclosed "b")) ∧
      ∃ entry ∈ unclosedSheet.entries, entry.isAttribute = false ∧
        entry.IsBad unclosedSheet.entries "de" page.locales ∧
        (∀ other ∈ unclosedSheet.entries, other.isAttribute = false →
          other.IsBad unclosedSheet.entries "de" page.locales →
            entry.row ≤ other.row) ∧
        entry.StopsWith unclosedSheet.entries "de" page.locales
          (.fragment 3 "de" "a <b>b" (.unclosed "b")) := by
  refine ⟨?_, ?_, ?_⟩
  · have accepted : (parse mixedSheet).toOption.map (fun page =>
        (page.locales, (page.render "de" .root).toOption.isSome)) =
          some (["en", "de"], true) := by decide +kernel
    obtain ⟨page, parsed, found⟩ := Option.map_eq_some_iff.mp accepted
    obtain ⟨locales, rendered⟩ := Prod.mk.inj found
    obtain ⟨document, rendered⟩ := Option.isSome_iff_exists.mp rendered
    have parsed := Outcome.eq_ok_of_toOption parsed
    have listed : "de" ∈ page.locales := by simp [locales]
    have written : ∃ document, page.render "de" .root = .ok document :=
      ⟨document, Outcome.eq_ok_of_toOption rendered⟩
    exact ⟨page, parsed, listed, written,
      (render_outcome_of_parse parsed listed).1.mp written⟩
  · obtain ⟨page, parsed, listed, stopped⟩ :=
      exists_stopped_of_failure? overfilledSheet "en" .root
        (.voidContent 5 "hr") (by decide +kernel)
    exact ⟨page, parsed, listed, stopped,
      ((render_outcome_of_parse parsed listed).2.1 _).mp stopped⟩
  · obtain ⟨page, parsed, listed, stopped⟩ :=
      exists_stopped_of_failure? unclosedSheet "de" .root
        (.fragment 3 "de" "a <b>b" (.unclosed "b")) (by decide +kernel)
    exact ⟨page, parsed, listed, stopped,
      ((render_outcome_of_parse parsed listed).2.1 _).mp stopped⟩

end Page

end WorkbookSite

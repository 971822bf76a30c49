import WorkbookSite.Proofs.OutlineSkeleton
import WorkbookSite.Proofs.PageOutline
import WorkbookSite.Proofs.ResolvedValues
import WorkbookSite.Rendering

/-!
# Rows of a rendered page

A document that is rendered from a page has one element for each element row
of the sheet, nested like these rows.  The attribute rows between an element
row and the next one give the attributes of its element; its children are what
its value stands for, followed by the elements of the rows below it.  All values
are what the cells of their rows resolve to in the locale.
-/

namespace WorkbookSite

open Markup (Node Element)

/-- The attributes that directly follow an entry in a list of rows. -/
def attributesAfter (entries : List Entry) (entry : Entry) : List Entry :=
  (entries.dropWhile (·.row ≤ entry.row)).takeWhile (·.isAttribute)

theorem attributesAfter_append {before after : List Entry} {entry : Entry}
    (sorted : (before ++ entry :: after).Pairwise (·.row < ·.row)) :
    attributesAfter (before ++ entry :: after) entry =
      after.takeWhile (·.isAttribute) := by
  obtain ⟨-, tail, across⟩ := List.pairwise_append.mp sorted
  have above : ∀ other ∈ before, decide (other.row ≤ entry.row) = true := by
    intro other member
    exact decide_eq_true
      (Nat.le_of_lt (across other member entry List.mem_cons_self))
  have below : after.dropWhile (·.row ≤ entry.row) = after := by
    cases after with
    | nil => rfl
    | cons next after =>
        have order := (List.pairwise_cons.mp tail).1 next List.mem_cons_self
        apply List.dropWhile_cons_of_neg
        simpa using order
  rw [attributesAfter, List.dropWhile_append_of_pos above,
    List.dropWhile_cons_of_pos (by simp), below]

theorem takeWhile_append_eq_left {α : Type} {condition : α → Bool}
    {first second : List α} (stops : second.takeWhile condition = []) :
    (first ++ second).takeWhile condition = first.takeWhile condition := by
  rw [List.takeWhile_append, stops, List.append_nil]
  split
  · rename_i all
    exact ((List.takeWhile_prefix condition).eq_of_length all).symm
  · rfl

/-- The nodes are what the value of an entry stands for as content of the
element of that name. -/
def Entry.HasContent (entry : Entry) (locale : String) (order : List String)
    (content : List Node) : Prop :=
  if entry.bestValue locale order = "" then content = []
  else Markup.Fragment.parse (entry.bestValue locale order) entry.key =
    .ok content

/-- The node is the element of an outline: it has the name of the entry, the
attributes assigned to it, and as children the content of the entry followed
by the elements of the outlines below it. -/
inductive Realizes (locale : String) (order : List String)
    (attributesOf : Entry → List Entry) : Outline → Node → Prop where
  | node {entry : Entry} {children : List Outline}
      {content nested : List Node} :
      entry.HasContent locale order content →
      List.Forall₂ (Realizes locale order attributesOf) children nested →
      Realizes locale order attributesOf (.node entry children)
        (.element entry.key
          ((attributesOf entry).map fun row =>
            (row.key, row.bestValue locale order))
          (content ++ nested))

theorem Realizes.name_eq {locale : String} {order : List String}
    {attributesOf : Entry → List Entry} {outline : Outline}
    {element : Element}
    (realizes : Realizes locale order attributesOf outline element.node) :
    element.name = outline.entry.key := by
  generalize same : element.node = node at realizes
  cases realizes
  exact (Node.element.inj same).1

theorem Entry.hasContent_of_renderValue {entry : Entry} {locale : String}
    {order : List String} {content : List Node}
    (rendered : entry.renderValue locale order = .ok content) :
    entry.HasContent locale order content := by
  unfold Entry.renderValue at rendered
  unfold Entry.HasContent
  simp only at rendered
  split at rendered
  · cases rendered
    simp_all
  · rename_i filled
    rw [if_neg filled]
    exact Outcome.mapError_eq_ok.mp rendered

namespace Outline

section Render

variable {locale : String} {order : List String}
  {attributesOf : Entry → List Entry}

/-- An element that is rendered has a known name, has content only if it is not
void, and is made of its own content and the elements below it. -/
theorem render_eq_ok {entry : Entry} {children : List Outline}
    {element : Element}
    (rendered : (node entry children).render locale order = .ok element) :
    Markup.isElement entry.key = true ∧
      (Markup.isVoid entry.key && (entry.bestValue locale order != "" ||
        children.any (!·.entry.isAttribute))) = false ∧
      ∃ content nested, entry.renderValue locale order = .ok content ∧
        renderChildren locale order children = .ok nested ∧
        element =
          { name := entry.key
            attributes := renderAttributes locale order children
            children := content ++ nested } := by
  rw [render] at rendered
  split at rendered
  · cases rendered
  rename_i known
  split at rendered
  · cases rendered
  rename_i plain
  obtain ⟨content, valued, rendered⟩ := Outcome.bind_eq_ok.mp rendered
  obtain ⟨nested, below, rendered⟩ := Outcome.bind_eq_ok.mp rendered
  cases rendered
  exact ⟨by simpa using known, by simpa using plain, content, nested, valued,
    below, rfl⟩

/-- Of the entries below an element, attributes give no node, and each of the
others gives one. -/
theorem renderChildren_cons_eq_ok {child : Outline} {children : List Outline}
    {nodes : List Node}
    (rendered : renderChildren locale order (child :: children) =
      .ok nodes) :
    child.entry.isAttribute = true ∧
        renderChildren locale order children = .ok nodes ∨
      child.entry.isAttribute = false ∧
        ∃ element elements, child.render locale order = .ok element ∧
          renderChildren locale order children = .ok elements ∧
          nodes = element.node :: elements := by
  rw [renderChildren] at rendered
  split at rendered
  · rename_i isAttribute
    exact .inl ⟨isAttribute, rendered⟩
  · rename_i isElement
    obtain ⟨element, here, rendered⟩ := Outcome.bind_eq_ok.mp rendered
    obtain ⟨elements, others, rendered⟩ := Outcome.bind_eq_ok.mp rendered
    cases rendered
    exact .inr ⟨by simpa using isElement, element, elements, here, others, rfl⟩

/-- The attributes of an element are those assigned to its entry. -/
def HasAttributes (attributesOf : Entry → List Entry) (outline : Outline) :
    Prop :=
  outline.entry.isAttribute = false →
    outline.attributes.map entry = attributesOf outline.entry

mutual

theorem realizes_of_render {outline : Outline} {element : Element}
    (isElement : outline.entry.isAttribute = false)
    (assigned : ∀ visited ∈ outline.preorder,
      visited.HasAttributes attributesOf)
    (rendered : outline.render locale order = .ok element) :
    Realizes locale order attributesOf outline.skeleton element.node := by
  cases outline with
  | node entry children =>
      obtain ⟨-, -, content, nested, valued, below, rfl⟩ :=
        render_eq_ok rendered
      have own : (children.filter (·.entry.isAttribute)).map Outline.entry =
          attributesOf entry :=
        assigned (.node entry children) (by simp [preorder]) isElement
      have attributes : renderAttributes locale order children =
          (attributesOf entry).map fun row =>
            (row.key, row.bestValue locale order) := by
        simp [renderAttributes, ← own]
      rw [skeleton, Element.node, attributes]
      apply Realizes.node (Entry.hasContent_of_renderValue valued)
      apply realizes_of_renderChildren _ below
      intro visited member
      exact assigned visited (by simp [preorder, member])

theorem realizes_of_renderChildren {outlines : List Outline}
    {nodes : List Node}
    (assigned : ∀ visited ∈ preorderList outlines,
      visited.HasAttributes attributesOf)
    (rendered : renderChildren locale order outlines = .ok nodes) :
    List.Forall₂ (Realizes locale order attributesOf)
      (skeletonList outlines) nodes := by
  cases outlines with
  | nil =>
      cases rendered
      exact .nil
  | cons outline outlines =>
      have inside : ∀ visited ∈ outline.preorder,
          visited.HasAttributes attributesOf := fun visited member =>
        assigned visited (by simp [preorderList, member])
      have beside : ∀ visited ∈ preorderList outlines,
          visited.HasAttributes attributesOf := fun visited member =>
        assigned visited (by simp [preorderList, member])
      rw [skeletonList]
      rcases renderChildren_cons_eq_ok rendered with
        ⟨isAttribute, others⟩ |
          ⟨isElement, element, elements, first, others, rfl⟩
      · rw [if_pos isAttribute]
        exact realizes_of_renderChildren beside others
      · rw [if_neg (by simp [isElement])]
        exact .cons (realizes_of_render isElement inside first)
          (realizes_of_renderChildren beside others)

end

end Render

/-- The attributes of every element nested from a part of the rows are those
that directly follow it among all rows.  What comes after the part starts with
an element, so that no attribute of the part is cut off. -/
theorem hasAttributes_of_mem_forest {deepest : Nat} {rows : List Entry}
    (sorted : rows.Pairwise (·.row < ·.row))
    (shape : AttributesDeepest deepest rows)
    (before entries after : List Entry)
    (split : rows = before ++ (entries ++ after))
    (elementNext : ∀ next ∈ after.head?, next.isAttribute = false) :
    ∀ visited ∈ preorderList (forest entries),
      visited.HasAttributes (attributesAfter rows) := by
  fun_induction forest entries generalizing before after with
  | case1 => intro visited member; cases member
  | case2 first rest inner outer =>
      have pieces : rest ++ after =
          rest.takeWhile (first.depth < ·.depth) ++
            (rest.dropWhile (first.depth < ·.depth) ++ after) := by
        rw [← List.append_assoc, List.takeWhile_append_dropWhile]
      have shapeHere : AttributesDeepest deepest (first :: rest) := by
        apply shape.sublist
        rw [split]
        exact (List.sublist_append_left _ after).trans
          (List.sublist_append_right before _)
      intro visited member
      rw [preorderList, preorder] at member
      rcases List.mem_append.mp member with inFirst | later
      · cases isAttribute : first.isAttribute with
        | true =>
            rw [shapeHere.takeWhile_of_attribute isAttribute, forest]
              at inFirst
            intro isElement
            obtain rfl : visited = .node first [] := by
              simpa [preorderList] using inFirst
            simp [entry, isAttribute] at isElement
        | false =>
            have elementAfter :=
              shapeHere.isAttribute_head_append isAttribute elementNext
            rcases List.mem_cons.mp inFirst with rfl | below
            · intro _
              have following : attributesAfter rows first =
                  (rest ++ after).takeWhile (·.isAttribute) := by
                rw [split] at sorted ⊢
                exact attributesAfter_append sorted
              have stops := takeWhile_isAttribute_eq_nil elementAfter
              rw [Outline.entry, following, pieces,
                takeWhile_append_eq_left stops]
              exact attributes_forest
                (shapeHere.sublist ((List.takeWhile_sublist _).cons first))
            · refine inner (before ++ [first]) _ ?_ elementAfter visited below
              simp [split, pieces]
      · refine outer
          (before ++ first :: rest.takeWhile (first.depth < ·.depth)) after ?_
          elementNext visited later
        simp [split, pieces]

theorem skeleton_ofEntries {deepest : Nat} {entries : List Entry}
    (shape : AttributesDeepest deepest entries) :
    (ofEntries entries).skeleton =
      ofEntries (entries.filter (!·.isAttribute)) := by
  rw [ofEntries_eq_forest, skeleton, skeletonList_forest shape,
    ofEntries_eq_forest]

theorem hasAttributes_root {deepest : Nat} {entries : List Entry}
    (shape : AttributesDeepest deepest entries)
    (numbered : ∀ entry ∈ entries, 0 < entry.row) :
    (ofEntries entries).HasAttributes (attributesAfter entries) := by
  intro _
  have none : entries.dropWhile (·.row ≤ Entry.root.row) = entries := by
    cases entries with
    | nil => rfl
    | cons first rest =>
        have positive := numbered first List.mem_cons_self
        apply List.dropWhile_cons_of_neg
        simpa [Entry.root] using Nat.ne_of_gt positive
  rw [ofEntries_eq_forest, Outline.entry, attributesAfter, none]
  exact attributes_forest shape

/-- The elements of an outline are rendered with the attributes that directly
follow them. -/
theorem realizes_ofEntries {deepest : Nat} {entries : List Entry}
    (sorted : entries.Pairwise (·.row < ·.row))
    (numbered : ∀ entry ∈ entries, 0 < entry.row)
    (shape : AttributesDeepest deepest entries)
    {locale : String} {order : List String} {element : Element}
    (rendered : (ofEntries entries).render locale order = .ok element) :
    Realizes locale order (attributesAfter entries)
      (ofEntries (entries.filter (!·.isAttribute))) element.node := by
  rw [← skeleton_ofEntries shape]
  have isElement : (ofEntries entries).entry.isAttribute = false :=
    congrArg Entry.isAttribute (entry_ofEntries entries)
  apply realizes_of_render isElement _ rendered
  intro visited member
  have root := hasAttributes_root shape numbered
  rw [ofEntries_eq_forest] at member root
  rw [preorder] at member
  rcases List.mem_cons.mp member with rfl | below
  · exact root
  · exact hasAttributes_of_mem_forest sorted shape [] entries []
      (by simp) (by simp) visited below

end Outline

namespace Page

theorem attributesDeepest_of_standsIn {sheet : Sheet} {rows : List Nat}
    {entries : List Entry}
    (standing : List.Forall₂ (Entry.StandsIn sheet) rows entries) :
    AttributesDeepest (sheet.attributeColumn + 1) entries := by
  intro entry member
  obtain ⟨_, _, column, stands⟩ := Entry.exists_row_of_mem standing member
  have inColumns := stands.inKeyColumns
  rw [stands.isAttribute_iff, stands.depth_eq]
  omega

theorem root_of_render {page : Page} {locale : String}
    {placement : LangPlacement} {document : Markup.Document}
    (rendered : page.render locale placement = .ok document) :
    ∃ root, page.root.render locale page.locales = .ok root ∧
      Page.document placement locale root = document := by
  unfold render at rendered
  split at rendered
  · exact Outcome.map_eq_ok.mp rendered
  · cases rendered

theorem listed_of_render {page : Page} {locale : String}
    {placement : LangPlacement} {document : Markup.Document}
    (rendered : page.render locale placement = .ok document) :
    ∃ place : Nat, page.locales[place]? = some locale := by
  unfold render at rendered
  split at rendered
  · rename_i listed
    exact List.mem_iff_getElem?.mp (by simpa [hasLocale] using listed)
  · cases rendered

end Page

/-- The outline of the element rows of a sheet alone. -/
def Sheet.elements (sheet : Sheet) : Outline :=
  .ofEntries (sheet.entries.filter (!·.isAttribute))

namespace Page

/-- A rendered page realizes the element rows of its sheet.  The entries are
those of the keyed rows, and show in the locale what their rows resolve to.
The outline of the element rows is visited in the order of these rows, each
below the nearest earlier one that lies less deep; the document has its shape,
with the attributes that directly follow each element row and those before the
first one at the root. -/
theorem render_of_parse {sheet : Sheet} {page : Page} {locale : String}
    {document : Markup.Document} (parsed : parse sheet = .ok page)
    (rendered : page.render locale .doctype = .ok document) :
    (∃ place : Nat, page.locales[place]? = some locale ∧
      List.Forall₂ (fun row entry => entry.StandsIn sheet row ∧
        ∀ value, entry.bestValue locale page.locales = value ↔
          sheet.ResolvesTo row place value) sheet.keyedRows sheet.entries) ∧
      sheet.elements.walk.map (·.entry) =
        .root :: sheet.entries.filter (!·.isAttribute) ∧
      (∀ before entry after,
        sheet.entries.filter (!·.isAttribute) = before ++ entry :: after →
          ∀ parent, sheet.elements.StandsUnder entry parent ↔
            parent = nearestShallower before entry.depth) ∧
      Realizes locale page.locales (attributesAfter sheet.entries)
        sheet.elements document.root.node ∧
      document.root.name = "html" := by
  have standing := sheet.standsIn_entries
  have sorted := Entry.sorted_of_standsIn sheet.keyedRows_sorted standing
  have deep := deep_of_standsIn standing
  obtain ⟨place, listed⟩ := listed_of_render rendered
  obtain ⟨root, rootRendered, rfl⟩ := root_of_render rendered
  rw [root_of_parse parsed] at rootRendered
  have realized : Realizes locale page.locales (attributesAfter sheet.entries)
      sheet.elements root.node :=
    Outline.realizes_ofEntries sorted (numbered_of_standsIn standing)
      (attributesDeepest_of_standsIn standing) rootRendered
  refine ⟨⟨place, listed, ?_⟩, Outline.walk_ofEntries _, ?_, realized, ?_⟩
  · exact sheet.entryAt?_entries.imp fun row entry found =>
      ⟨Layout.standsIn_of_readRow rfl (Layout.readRow_of_entryAt? found),
        bestValue_eq_iff parsed found listed⟩
  · intro before entry after split parent
    rw [Sheet.elements, split]
    apply Outline.standsUnder_ofEntries_iff
    · rw [← split]
      exact (sorted.filter _).imp fun order same => by
        rw [same] at order
        exact Nat.lt_irrefl _ order
    · rw [← split]
      intro entry member
      exact deep entry (List.mem_of_mem_filter member)
  · exact realized.name_eq.trans
      (congrArg Entry.key (Outline.entry_ofEntries _))

/-- A sheet with attributes at the root, values with markup, a blank row, and a
row that skips a column after an attribute. -/
def mixedSheet : Sheet :=
  ⟨"mixed",
    [["", "", "", "attribute", "en", "de"],
     ["path", "", "", "", "/index.html", "/de.html"],
     ["", "", "", "class", "wide"], ["body"], ["", "", "p", "", "a <b>b</b>"],
     ["", "", "", "id", "", "erst"], [], ["", "ul"], ["", "", "li", "", "x"]]⟩

/-- The id of the paragraph is its own in German, and all else falls back to
English. -/
theorem render_mixedSheet :
    ∃ page document, parse mixedSheet = .ok page ∧
      page.render "de" .doctype = .ok document ∧
      mixedSheet.entries.map (fun entry =>
          (entry.key, entry.bestValue "de" page.locales)) =
        [("class", "wide"), ("body", ""), ("p", "a <b>b</b>"), ("id", "erst"),
          ("ul", ""), ("li", "x")] ∧
      document.root.toHtml = String.join
        ["<html class=\"wide\"><body><p id=\"erst\">a <b>b</b></p>",
          "<ul><li>x</li></ul></body></html>"] ∧
      (∃ place : Nat, page.locales[place]? = some "de" ∧
        List.Forall₂ (fun row entry => entry.StandsIn mixedSheet row ∧
          ∀ value, entry.bestValue "de" page.locales = value ↔
            mixedSheet.ResolvesTo row place value)
          mixedSheet.keyedRows mixedSheet.entries) ∧
      mixedSheet.elements.walk.map (·.entry) =
        .root :: mixedSheet.entries.filter (!·.isAttribute) ∧
      (∀ before entry after,
        mixedSheet.entries.filter (!·.isAttribute) = before ++ entry :: after →
          ∀ parent, mixedSheet.elements.StandsUnder entry parent ↔
            parent = nearestShallower before entry.depth) ∧
      Realizes "de" page.locales (attributesAfter mixedSheet.entries)
        mixedSheet.elements document.root.node ∧
      document.root.name = "html" := by
  have accepted : (do
      let page ← (parse mixedSheet).toOption
      let document ← (page.render "de" .doctype).toOption
      some (mixedSheet.entries.map (fun entry =>
        (entry.key, entry.bestValue "de" page.locales)),
        document.root.toHtml)) = some
          ([("class", "wide"), ("body", ""), ("p", "a <b>b</b>"),
            ("id", "erst"), ("ul", ""), ("li", "x")], String.join
              ["<html class=\"wide\"><body><p id=\"erst\">a <b>b</b></p>",
                "<ul><li>x</li></ul></body></html>"]) := by
    decide +kernel
  obtain ⟨page, parsed, accepted⟩ := Option.bind_eq_some_iff.mp accepted
  obtain ⟨document, rendered, shown⟩ := Option.bind_eq_some_iff.mp accepted
  obtain ⟨values, printed⟩ := Prod.mk.inj (Option.some.inj shown)
  have parsed := Outcome.eq_ok_of_toOption parsed
  have rendered := Outcome.eq_ok_of_toOption rendered
  exact ⟨page, document, parsed, rendered, values, printed,
    render_of_parse parsed rendered⟩

end Page

end WorkbookSite

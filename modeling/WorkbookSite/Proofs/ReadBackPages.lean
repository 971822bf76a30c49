import WorkbookSite.Proofs.FragmentRoundTrip
import WorkbookSite.Proofs.RenderedRows

/-!
# Pages that are read back

The printed root of a rendered page is read again as a fragment.  The same
element comes back unless one of the rows spoils it.  Rendering checks neither
the names of attributes nor which elements stay open around each other, and it
writes scripts and styles as they are; a row can spoil the page in these ways
and in no other, whatever its values are.
-/

namespace WorkbookSite

namespace Markup

theorem Node.wellFormed_element_iff {name : String}
    {attributes : List (String × String)} {children : List Node} :
    (Node.element name attributes children).WellFormed ↔
      ElementFits name attributes children ∧ WellFormedNodes children := by
  constructor
  · intro wellFormed
    cases wellFormed with
    | element fits separate inside => exact ⟨fits, separate, inside⟩
  · rintro ⟨fits, separate, inside⟩
    exact .element fits separate inside

theorem ElementFits.cons_attribute_iff {name key value : String}
    {attributes : List (String × String)} {children : List Node}
    (named : IsAttributeName key) :
    ElementFits name ((key, value) :: attributes) children ↔
      ElementFits name attributes children := by
  constructor
  · intro fits
    exact { fits with
      attributesNamed := (List.forall_mem_cons.mp fits.attributesNamed).2 }
  · intro fits
    exact { fits with
      attributesNamed := List.forall_mem_cons.mpr
        ⟨named, fits.attributesNamed⟩ }

theorem Element.parse_toHtml_iff (element : Element) :
    Fragment.parse element.toHtml "body" = .ok [element.node] ↔
      element.node.WellFormed := by
  have markup : textMode "body" = .normal := by decide
  have printed : element.toHtml.toList =
      Node.printList false [element.node] := by
    simp [Element.toHtml, Node.printList]
  simp only [Fragment.parse, markup, printed]
  constructor
  · intro parsed
    exact (wellFormedNodes_of_parseMarkup parsed).2 _ List.mem_cons_self
  · intro wellFormed
    exact WellFormedNodes.parseMarkup_print
      ⟨.singleton _, List.forall_mem_singleton.mpr wellFormed⟩

theorem wellFormedNodes_append_elements {content nested : List Node}
    (wellFormed : WellFormedNodes content)
    (elements : ∀ node ∈ nested, node.isText = false) :
    WellFormedNodes (content ++ nested) ↔
      ∀ node ∈ nested, node.WellFormed := by
  constructor
  · intro both node listed
    exact both.2 node (List.mem_append_right content listed)
  · intro nestedWellFormed
    constructor
    · apply List.IsChain.append wellFormed.1
      · apply List.Pairwise.isChain
        exact List.pairwise_of_forall_mem_list fun _ _ later listed =>
          .inr (elements later listed)
      · intro last _ first isFirst
        exact .inr (elements first (List.mem_of_mem_head? isFirst))
    · exact List.forall_mem_append.mpr ⟨wellFormed.2, nestedWellFormed⟩

theorem BodyFits.eq_nil_of_elements {name : String}
    {content nested : List Node} (fits : BodyFits name (content ++ nested))
    (elements : ∀ node ∈ nested, node.isText = false) : nested = [] := by
  apply List.eq_nil_iff_forall_not_mem.mpr
  intro node listed
  have textual := elements node listed
  have inside := List.mem_append_right content listed
  rcases fits with none | ⟨text, single, -⟩
  · rw [none] at inside
    exact List.not_mem_nil inside
  · rw [single, List.mem_singleton] at inside
    rw [inside] at textual
    cases textual

end Markup

open Markup

namespace Entry

variable {entry : Entry} {locale : String} {order : List String}
  {content : List Node}

theorem HasContent.wellFormedNodes
    (valued : entry.HasContent locale order content) :
    WellFormedNodes content := by
  unfold HasContent at valued
  split at valued
  · rw [valued]
    exact .nil
  · unfold Fragment.parse at valued
    split at valued
    · cases valued
      exact WellFormedNodes.nil.appendText _
    · cases valued
      exact WellFormedNodes.nil.appendText _
    · exact wellFormedNodes_of_parseMarkup valued

theorem HasContent.unique {other : List Node}
    (valued : entry.HasContent locale order content)
    (otherValued : entry.HasContent locale order other) : content = other := by
  unfold HasContent at valued otherValued
  split at valued
  · rename_i empty
    rw [if_pos empty] at otherValued
    rw [valued, otherValued]
  · rename_i filled
    rw [if_neg filled, valued] at otherValued
    cases otherValued
    rfl

/-- Content that is not read as markup is one text. -/
theorem HasContent.eq_text
    (valued : entry.HasContent locale order content)
    (mode : textMode entry.key ≠ .normal) :
    ∃ text, content = appendText [] text ∧
      (textMode entry.key = .raw → text = entry.bestValue locale order) := by
  unfold HasContent at valued
  split at valued
  · rename_i empty
    exact ⟨"", valued, fun _ => empty.symm⟩
  · unfold Fragment.parse at valued
    split at valued
    · cases valued
      exact ⟨_, rfl, fun _ => rfl⟩
    · rename_i escapable
      cases valued
      exact ⟨_, rfl, fun raw => by simp [escapable] at raw⟩
    · rename_i normal
      exact absurd normal mode

/-- The content lets the element be read to its own end tag. -/
theorem HasContent.bodyFits_iff
    (valued : entry.HasContent locale order content)
    (mode : textMode entry.key ≠ .normal) :
    BodyFits entry.key content ↔
      (textMode entry.key = .raw → ¬ '<' :: '/' :: entry.key.toList <:+:
        lowercase (entry.bestValue locale order).toList) := by
  obtain ⟨text, rfl, raw⟩ := valued.eq_text mode
  by_cases empty : text = ""
  · subst empty
    have none : appendText [] "" = [] := rfl
    rw [none]
    constructor
    · intro _ isRaw
      rw [← raw isRaw]
      simp [lowercase]
    · exact fun _ => .inl rfl
  · have single : appendText [] text = [.text text] := by
      simp [appendText, empty]
    rw [single]
    constructor
    · rintro (none | ⟨other, same, unmarked⟩) isRaw
      · cases none
      · cases same
        rw [← raw isRaw]
        exact unmarked isRaw
    · intro unmarked
      refine .inr ⟨text, rfl, fun isRaw => ?_⟩
      rw [raw isRaw]
      exact unmarked isRaw

end Entry

namespace Outline

variable {locale : String} {order : List String}

/-- The row of an element, with the rows directly below it, can be read back:
nothing in it ends the element early or is taken for something else. -/
structure Intact (locale : String) (order : List String) (outline : Outline) :
    Prop where
  /-- The keys of its attributes can be read as names of attributes. -/
  attributesNamed : ∀ row ∈ outline.attributes, IsAttributeName row.entry.key
  /-- No element in its value ends the element. -/
  contentStays : ∀ {content}, outline.entry.HasContent locale order content →
    ∀ {start attributes children},
      Node.element start attributes children ∈ content →
        startTagCloses outline.entry.key start = false
  /-- No element below ends the element. -/
  elementsStay : ∀ row ∈ outline.elements,
    startTagCloses outline.entry.key row.entry.key = false
  /-- No element stands where markup is not read. -/
  noElements : textMode outline.entry.key ≠ .normal → outline.elements = []
  /-- A value that is written as it is does not hold the end tag. -/
  unmarked : textMode outline.entry.key = .raw →
    ¬ '<' :: '/' :: outline.entry.key.toList <:+:
      lowercase (outline.entry.bestValue locale order).toList

theorem name_of_render {outline : Outline} {element : Element}
    (rendered : outline.render locale order = .ok element) :
    element.name = outline.entry.key := by
  cases outline with
  | node entry children =>
      obtain ⟨-, -, content, nested, -, -, rfl⟩ := render_eq_ok rendered
      rfl

/-- The nodes are elements, named like the rows that are elements. -/
def NamedLike (rows : List Outline) (nodes : List Node) : Prop :=
  List.Forall₂ (fun row node => ∃ attributes children,
    node = .element row.entry.key attributes children) rows nodes

theorem namedLike_of_renderChildren {outlines : List Outline}
    {nodes : List Node}
    (rendered : renderChildren locale order outlines = .ok nodes) :
    NamedLike (outlines.filter (!·.entry.isAttribute)) nodes := by
  induction outlines generalizing nodes with
  | nil =>
      cases rendered
      exact .nil
  | cons outline outlines induction =>
      rcases renderChildren_cons_eq_ok rendered with
        ⟨isAttribute, others⟩ |
          ⟨isElement, element, elements, first, others, rfl⟩
      · rw [List.filter_cons_of_neg (by simp [isAttribute])]
        exact induction others
      · rw [List.filter_cons_of_pos (by simp [isElement])]
        refine .cons ⟨element.attributes, element.children, ?_⟩
          (induction others)
        rw [Element.node, name_of_render first]

theorem NamedLike.isText {rows : List Outline} {nodes : List Node}
    (named : NamedLike rows nodes) : ∀ node ∈ nodes, node.isText = false := by
  induction named with
  | nil => exact List.forall_mem_nil _
  | cons first others induction =>
      obtain ⟨attributes, children, rfl⟩ := first
      exact List.forall_mem_cons.mpr ⟨rfl, induction⟩

theorem NamedLike.forall_iff {rows : List Outline} {nodes : List Node}
    (named : NamedLike rows nodes) (condition : String → Prop) :
    (∀ {start attributes children},
      Node.element start attributes children ∈ nodes → condition start) ↔
      ∀ row ∈ rows, condition row.entry.key := by
  induction named with
  | nil => simp
  | @cons row node rows nodes first others induction =>
      obtain ⟨attributes, children, rfl⟩ := first
      rw [List.forall_mem_cons, ← induction]
      constructor
      · intro each
        exact ⟨each List.mem_cons_self,
          fun listed => each (List.mem_cons_of_mem _ listed)⟩
      · rintro ⟨here, later⟩ start _ _ listed
        rcases List.mem_cons.mp listed with same | listed
        · cases same
          exact here
        · exact later listed

theorem NamedLike.eq_nil_iff {rows : List Outline} {nodes : List Node}
    (named : NamedLike rows nodes) : nodes = [] ↔ rows = [] := by
  cases named <;> simp

/-- An element fits together if and only if its row is intact. -/
theorem elementFits_iff_intact {entry : Entry} {children : List Outline}
    {content nested : List Node}
    (known : isElement entry.key = true)
    (plain : isVoid entry.key = true → content ++ nested = [])
    (valued : entry.HasContent locale order content)
    (named : NamedLike (Outline.node entry children).elements nested) :
    ElementFits entry.key (renderAttributes locale order children)
        (content ++ nested) ↔
      (Outline.node entry children).Intact locale order := by
  have attributes : (∀ pair ∈ renderAttributes locale order children,
      IsAttributeName pair.1) ↔
        ∀ row ∈ (Outline.node entry children).attributes,
          IsAttributeName row.entry.key := by
    simp only [renderAttributes, List.forall_mem_map]
    rfl
  have only : ∀ {other}, entry.HasContent locale order other →
      other = content := fun valued' => valued'.unique valued
  constructor
  · intro fits
    have alone : textMode entry.key ≠ .normal → nested = [] :=
      fun mode => (fits.body mode).eq_nil_of_elements named.isText
    exact {
      attributesNamed := attributes.mp fits.attributesNamed
      contentStays := fun valued' _ _ _ listed => by
        rw [only valued'] at listed
        exact fits.unclosed (List.mem_append_left nested listed)
      elementsStay := (named.forall_iff (startTagCloses entry.key · = false)).mp
        fun listed => fits.unclosed (List.mem_append_right content listed)
      noElements := fun mode => named.eq_nil_iff.mp (alone mode)
      unmarked := by
        intro raw
        have mode : textMode entry.key ≠ .normal := by
          intro normal
          simp [Outline.entry, normal] at raw
        have body := fits.body mode
        rw [alone mode, List.append_nil] at body
        exact (valued.bodyFits_iff mode).mp body raw }
  · intro intact
    exact {
      named := isElementName_of_mem (List.contains_iff_mem.mp known)
      attributesNamed := attributes.mpr intact.attributesNamed
      void := plain
      unclosed := fun listed => by
        rcases List.mem_append.mp listed with inside | below
        · exact intact.contentStays valued inside
        · exact (named.forall_iff (startTagCloses entry.key · = false)).mpr
            intact.elementsStay below
      body := fun mode => by
        rw [named.eq_nil_iff.mpr (intact.noElements mode), List.append_nil]
        exact (valued.bodyFits_iff mode).mpr intact.unmarked }

theorem Bare.preorder_eq {outline : Outline} (bare : outline.Bare)
    (isAttribute : outline.entry.isAttribute = true) :
    outline.preorder = [outline] := by
  cases outline with
  | node entry children =>
      obtain rfl : children = [] := bare isAttribute
      rfl

/-- A void element that is rendered has neither content nor elements. -/
theorem append_eq_nil_of_isVoid {entry : Entry} {children : List Outline}
    {content nested : List Node}
    (plain : isVoid entry.key = true → entry.bestValue locale order = "" ∧
      ∀ child ∈ children, child.entry.isAttribute = true)
    (valued : entry.HasContent locale order content)
    (named : NamedLike (Outline.node entry children).elements nested)
    (void : isVoid entry.key = true) : content ++ nested = [] := by
  obtain ⟨empty, attributes⟩ := plain void
  rw [Entry.HasContent, if_pos empty] at valued
  have none : (Outline.node entry children).elements = [] := by
    simpa [elements, Outline.children] using attributes
  rw [valued, named.eq_nil_iff.mpr none, List.append_nil]

mutual

/-- An element is well-formed if and only if all the rows it is rendered from
are intact. -/
theorem wellFormed_iff_of_render {outline : Outline} {element : Element}
    (isElement : outline.entry.isAttribute = false)
    (bare : ∀ visited ∈ outline.preorder, visited.Bare)
    (rendered : outline.render locale order = .ok element) :
    element.node.WellFormed ↔ ∀ visited ∈ outline.preorder,
      visited.entry.isAttribute = false → visited.Intact locale order := by
  cases outline with
  | node entry children =>
      obtain ⟨known, plain, content, nested, valued, below, rfl⟩ :=
        render_eq_ok rendered
      have named := namedLike_of_renderChildren below
      have valued := Entry.hasContent_of_renderValue valued
      have inside := wellFormed_iff_of_renderChildren
        (fun visited listed => bare visited (by simp [preorder, listed])) below
      rw [Element.node, Node.wellFormed_element_iff,
        wellFormedNodes_append_elements valued.wellFormedNodes named.isText,
        elementFits_iff_intact known ?_ valued named, inside,
        preorder, List.forall_mem_cons]
      · exact and_congr_left fun _ =>
          ⟨fun intact _ => intact, fun intact => intact isElement⟩
      · exact append_eq_nil_of_isVoid (by simpa using plain) valued named

theorem wellFormed_iff_of_renderChildren {outlines : List Outline}
    {nodes : List Node}
    (bare : ∀ visited ∈ preorderList outlines, visited.Bare)
    (rendered : renderChildren locale order outlines = .ok nodes) :
    (∀ node ∈ nodes, node.WellFormed) ↔
      ∀ visited ∈ preorderList outlines,
        visited.entry.isAttribute = false → visited.Intact locale order := by
  cases outlines with
  | nil =>
      cases rendered
      simp [preorderList]
  | cons outline outlines =>
      rw [preorderList] at bare ⊢
      obtain ⟨here, later⟩ := List.forall_mem_append.mp bare
      rw [List.forall_mem_append]
      rcases renderChildren_cons_eq_ok rendered with
        ⟨isAttribute, others⟩ |
          ⟨isElement, element, elements, first, others, rfl⟩
      · have only := (here _ (mem_preorder outline)).preorder_eq isAttribute
        rw [wellFormed_iff_of_renderChildren later others, only,
          List.forall_mem_singleton, isAttribute]
        simp
      · rw [List.forall_mem_cons,
          wellFormed_iff_of_render isElement here first,
          wellFormed_iff_of_renderChildren later others]

end

end Outline

namespace Page

theorem wellFormed_document_iff (placement : LangPlacement) (locale : String)
    (root : Element) :
    (document placement locale root).root.node.WellFormed ↔
      root.node.WellFormed := by
  have named : IsAttributeName "lang" :=
    ⟨by decide, List.forall_iff_forall_mem.mp (by decide)⟩
  cases placement with
  | doctype => exact Iff.rfl
  | root =>
      unfold document
      simp only
      split
      · exact Iff.rfl
      · simp only [Element.node, Node.wellFormed_element_iff,
          ElementFits.cons_attribute_iff named]

/-- The printed root of a rendered page is read back as the element that it is
printed from if and only if every element row of the sheet is intact. -/
theorem parse_toHtml_root_iff {sheet : Sheet} {page : Page} {locale : String}
    {placement : LangPlacement} {document : Document}
    (parsed : parse sheet = .ok page)
    (rendered : page.render locale placement = .ok document) :
    Fragment.parse document.root.toHtml "body" = .ok [document.root.node] ↔
      ∀ visited ∈ page.root.walk, visited.entry.isAttribute = false →
        visited.Intact locale page.locales := by
  obtain ⟨entries, rooted, standing⟩ := entries_of_parse parsed
  obtain ⟨root, rootRendered, rfl⟩ := root_of_render rendered
  rw [Element.parse_toHtml_iff, wellFormed_document_iff]
  have bare : ∀ visited ∈ page.root.preorder, visited.Bare := by
    rw [rooted, Outline.ofEntries_eq_forest, Outline.preorder,
      List.forall_mem_cons]
    exact ⟨by simp [Outline.Bare, Outline.entry, Entry.root],
      Outline.bare_of_mem_forest (attributesDeepest_of_standsIn standing)⟩
  have isElement : page.root.entry.isAttribute = false := by
    rw [rooted, Outline.entry_ofEntries]
    rfl
  rw [Outline.wellFormed_iff_of_render isElement bare rootRendered,
    Outline.walk, Outline.walkPending_eq_preorderList, Outline.preorderList,
    Outline.preorderList, List.append_nil]

/-- A sheet in one locale, with attributes in its fourth column. -/
def plainSheet (rows : List (List String)) : Sheet :=
  ⟨"page",
    ["", "", "", "attribute", "en"] :: ["path", "", "", "", "/index.html"] ::
      rows⟩

/-- An attribute whose key is two names, a list item below another, a value
that is a list item below a list item, a script that holds its own end tag, and
an element below a title. -/
def spoiledSheets : List Sheet :=
  [plainSheet [["body"], ["", "", "", "class id", "x"]],
   plainSheet [["ul"], ["", "li"], ["", "", "li"]],
   plainSheet [["ul"], ["", "li", "", "", "<li>x</li>"]],
   plainSheet [["script", "", "", "", "\"</script>\""]],
   plainSheet [["title"], ["", "b"]]]

theorem not_read_back_spoiledSheets :
    spoiledSheets.Forall fun sheet =>
      ∃ page document, parse sheet = .ok page ∧
        page.render "en" .doctype = .ok document ∧
        Fragment.parse document.root.toHtml "body" ≠
          .ok [document.root.node] := by
  have each : ∀ sheet ∈ spoiledSheets,
      ((parse sheet).toOption.bind fun page =>
        (page.render "en" .doctype).toOption).any fun document =>
          Fragment.parse document.root.toHtml "body" ≠
            .ok [document.root.node] := by
    decide +kernel
  apply List.forall_iff_forall_mem.mpr
  intro sheet listed
  have differs := each sheet listed
  cases found : (parse sheet).toOption.bind fun page =>
      (page.render "en" .doctype).toOption with
  | none =>
      rw [found] at differs
      cases differs
  | some document =>
      obtain ⟨page, parsed, rendered⟩ := Option.bind_eq_some_iff.mp found
      rw [found, Option.any_some, decide_eq_true_iff] at differs
      exact ⟨page, document, Outcome.eq_ok_of_toOption parsed,
        Outcome.eq_ok_of_toOption rendered, differs⟩

/-- A sheet with a quoted attribute, a script, and markup in a value. -/
def intactSheet : Sheet :=
  plainSheet
    [["", "", "", "class", "a \"b\""], ["script", "", "", "", "a < b"], ["ul"],
     ["", "li", "", "", "one<br>&amp; <em>two</em>"]]

def intactRoot : Element where
  name := "html"
  attributes := [("lang", "en"), ("class", "a \"b\"")]
  children :=
    [.element "script" [] [.text "a < b"],
     .element "ul" []
       [.element "li" []
         [.text "one", .element "br" [] [], .text "& ",
          .element "em" [] [.text "two"]]]]

theorem read_back_intactSheet :
    ∃ page, parse intactSheet = .ok page ∧
      page.render "en" .root = .ok { root := intactRoot } ∧
      Fragment.parse intactRoot.toHtml "body" = .ok [intactRoot.node] ∧
      ∀ visited ∈ page.root.walk, visited.entry.isAttribute = false →
        visited.Intact "en" page.locales := by
  have accepted : ((parse intactSheet).toOption.bind fun page =>
      (page.render "en" .root).toOption) = some { root := intactRoot } := by
    decide +kernel
  have again : Fragment.parse intactRoot.toHtml "body" =
      .ok [intactRoot.node] := by
    decide +kernel
  obtain ⟨page, parsed, rendered⟩ := Option.bind_eq_some_iff.mp accepted
  have parsed := Outcome.eq_ok_of_toOption parsed
  have rendered := Outcome.eq_ok_of_toOption rendered
  exact ⟨page, parsed, rendered, again,
    (parse_toHtml_root_iff parsed rendered).mp again⟩

end Page

end WorkbookSite

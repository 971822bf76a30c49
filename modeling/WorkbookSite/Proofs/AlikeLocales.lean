import WorkbookSite.Proofs.AssociationLists
import WorkbookSite.Proofs.RenderedRows
import WorkbookSite.Proofs.RowFaults
import WorkbookSite.Proofs.StoredValues

/-!
# Locales of one page

The locales of a page share one structure.  Whether an element is blank, and so
whether its structure has a fault, does not depend on the locale: two documents
of a page differ in the values of attributes and in the nodes that values stand
for, and what keeps one locale from being rendered keeps all of them from it,
unless a value further up is no fragment.
-/

namespace WorkbookSite

open Markup (Node Element Document)

namespace Outline

variable {first second : String} {order : List String}

mutual

/-- The two nodes are elements of one outline in two locales: both have the
name of its entry and attributes of the same names, and their children are the
content of the entry in the locale, followed by the elements of the outlines
below it, which are alike in turn. -/
inductive RendersAlike (first second : String) (order : List String) :
    Outline → Node → Node → Prop where
  | node {entry : Entry} {children : List Outline}
      {attributes attributes' : List (String × String)}
      {content content' nested nested' : List Node} :
      attributes.map Prod.fst = attributes'.map Prod.fst →
      entry.HasContent first order content →
      entry.HasContent second order content' →
      RendersAlikeBelow first second order children nested nested' →
      RendersAlike first second order (.node entry children)
        (.element entry.key attributes (content ++ nested))
        (.element entry.key attributes' (content' ++ nested'))

/-- Attributes have no node of their own. -/
inductive RendersAlikeBelow (first second : String) (order : List String) :
    List Outline → List Node → List Node → Prop where
  | nil : RendersAlikeBelow first second order [] [] []
  | attribute {child : Outline} {children : List Outline}
      {nodes nodes' : List Node} :
      child.entry.isAttribute = true →
      RendersAlikeBelow first second order children nodes nodes' →
      RendersAlikeBelow first second order (child :: children) nodes nodes'
  | element {child : Outline} {children : List Outline} {node node' : Node}
      {nodes nodes' : List Node} :
      child.entry.isAttribute = false →
      RendersAlike first second order child node node' →
      RendersAlikeBelow first second order children nodes nodes' →
      RendersAlikeBelow first second order (child :: children)
        (node :: nodes) (node' :: nodes')

end

theorem names_renderAttributes (locale : String) (children : List Outline) :
    (renderAttributes locale order children).map Prod.fst =
      (children.filter (·.entry.isAttribute)).map (·.entry.key) := by
  rw [renderAttributes, List.map_map]
  rfl

mutual

theorem rendersAlike_of_render {outline : Outline} {element element' : Element}
    (rendered : outline.render first order = .ok element)
    (rendered' : outline.render second order = .ok element') :
    RendersAlike first second order outline element.node element'.node := by
  cases outline with
  | node entry children =>
      obtain ⟨-, -, content, nested, valued, below, rfl⟩ :=
        render_eq_ok rendered
      obtain ⟨-, -, content', nested', valued', below', rfl⟩ :=
        render_eq_ok rendered'
      apply RendersAlike.node
      · rw [names_renderAttributes, names_renderAttributes]
      · exact Entry.hasContent_of_renderValue valued
      · exact Entry.hasContent_of_renderValue valued'
      · exact rendersAlikeBelow_of_renderChildren below below'

theorem rendersAlikeBelow_of_renderChildren {outlines : List Outline}
    {nodes nodes' : List Node}
    (rendered : renderChildren first order outlines = .ok nodes)
    (rendered' : renderChildren second order outlines = .ok nodes') :
    RendersAlikeBelow first second order outlines nodes nodes' := by
  cases outlines with
  | nil =>
      cases rendered
      cases rendered'
      exact .nil
  | cons child children =>
      rcases renderChildren_cons_eq_ok rendered with
        ⟨isAttribute, others⟩ |
          ⟨isElement, element, elements, here, others, rfl⟩ <;>
      rcases renderChildren_cons_eq_ok rendered' with
        ⟨isAttribute', others'⟩ |
          ⟨isElement', element', elements', here', others', rfl⟩
      · exact .attribute isAttribute
          (rendersAlikeBelow_of_renderChildren others others')
      · simp [isAttribute] at isElement'
      · simp [isElement] at isAttribute'
      · exact .element isElement (rendersAlike_of_render here here')
          (rendersAlikeBelow_of_renderChildren others others')

end

theorem RendersAlike.withAttributes {outline : Outline}
    {element element' : Element}
    (alike : RendersAlike first second order outline element.node
      element'.node)
    {attributes attributes' : List (String × String)}
    (names : attributes.map Prod.fst = attributes'.map Prod.fst) :
    RendersAlike first second order outline
      { element with attributes := attributes }.node
      { element' with attributes := attributes' }.node := by
  obtain ⟨name, _, children⟩ := element
  obtain ⟨name', _, children'⟩ := element'
  simp only [Element.node] at alike ⊢
  cases alike with
  | node _ valued valued' below => exact .node names valued valued' below

theorem RendersAlike.names_eq {outline : Outline} {element element' : Element}
    (alike : RendersAlike first second order outline element.node
      element'.node) :
    element.attributes.map Prod.fst = element'.attributes.map Prod.fst := by
  obtain ⟨name, _, children⟩ := element
  obtain ⟨name', _, children'⟩ := element'
  simp only [Element.node] at alike
  cases alike with
  | node names _ _ _ => exact names

/-- The entry is blank in both locales or in none. -/
def BlankAlike (first second : String) (order : List String)
    (outline : Outline) : Prop :=
  outline.entry.bestValue first order = "" ↔
    outline.entry.bestValue second order = ""

theorem BlankAlike.structuralFault?_eq {outline : Outline}
    (alike : outline.BlankAlike first second order) :
    outline.structuralFault? first order =
      outline.structuralFault? second order := by
  cases outline with
  | node entry children =>
      have filled : (entry.bestValue first order != "") =
          (entry.bestValue second order != "") := by
        rw [Bool.eq_iff_iff, bne_iff_ne, bne_iff_ne]
        exact not_congr alike
      rw [structuralFault?, structuralFault?, filled]

/-- Among elements in the order of their rows, the first fault in one locale is
the first one in the other too if it lies in the structure, unless a value
further up is no fragment there: no other fault can be further up, since it
would be one in the first locale. -/
theorem findSome?_fault?_of_structural {visited : List Outline}
    (sorted : visited.Pairwise (·.entry.row < ·.entry.row))
    (alike : ∀ outline ∈ visited, outline.BlankAlike first second order)
    {error : RenderError} {row : Nat} (structural : error.IsStructuralAt row)
    (found : visited.findSome? (fault? first order) = some error) :
    visited.findSome? (fault? second order) = some error ∨
      ∃ earlier value cause, earlier < row ∧
        visited.findSome? (fault? second order) =
          some (.fragment earlier second value cause) := by
  obtain ⟨before, outline, after, rfl, failing, sound⟩ :=
    List.findSome?_eq_some_iff.mp found
  have here : outline.structuralFault? second order = some error := by
    rcases fault?_cases failing with structure' | ⟨-, _, rfl⟩
    · rwa [← (alike outline (by simp)).structuralFault?_eq]
    · exact absurd structural RenderError.not_isStructuralAt_fragment
  have located : outline.entry.row = row :=
    structural.row_unique (isStructuralAt_of_structuralFault? here)
  rw [List.findSome?_append]
  cases above : before.findSome? (fault? second order) with
  | none =>
      left
      simp [fault?, here]
  | some other =>
      right
      obtain ⟨_, upper, _, rfl, faulty, -⟩ :=
        List.findSome?_eq_some_iff.mp above
      have order' : upper.entry.row < outline.entry.row :=
        (List.pairwise_append.mp sorted).2.2 upper (by simp) outline (by simp)
      have soundHere := sound upper (by simp)
      rcases fault?_cases faulty with structure' | ⟨-, cause, rfl⟩
      · rw [← (alike upper (by simp)).structuralFault?_eq] at structure'
        simp [fault?, structure'] at soundHere
      · exact ⟨upper.entry.row, _, cause, located ▸ order', rfl⟩

/-- Where one locale is rendered, the other fails at most at a value. -/
theorem fragment_of_findSome?_fault? {visited : List Outline}
    (alike : ∀ outline ∈ visited, outline.BlankAlike first second order)
    (sound : visited.findSome? (fault? first order) = none)
    {error : RenderError}
    (found : visited.findSome? (fault? second order) = some error) :
    ∃ row value cause, error = .fragment row second value cause := by
  obtain ⟨before, outline, after, rfl, failing, -⟩ :=
    List.findSome?_eq_some_iff.mp found
  have soundHere := List.findSome?_eq_none_iff.mp sound outline (by simp)
  rcases fault?_cases failing with structural | ⟨-, cause, rfl⟩
  · rw [← (alike outline (by simp)).structuralFault?_eq] at structural
    simp [fault?, structural] at soundHere
  · exact ⟨_, _, cause, rfl⟩

end Outline

namespace Page

variable {page : Page} {first second : String} {placement : LangPlacement}

/-- The documents differ only in the values of their attributes and in the
nodes that values of the page stand for. -/
structure DocumentsAlike (page : Page) (first second : String)
    (document document' : Document) : Prop where
  doctypeName : document.doctype.name = document'.doctype.name
  doctypeAttributes : document.doctype.attributes.map Prod.fst =
    document'.doctype.attributes.map Prod.fst
  root : page.root.RendersAlike first second page.locales document.root.node
    document'.root.node

theorem documentsAlike_document {root root' : Element}
    (alike : page.root.RendersAlike first second page.locales root.node
      root'.node) :
    page.DocumentsAlike first second (document placement first root)
      (document placement second root') := by
  cases placement with
  | doctype => exact ⟨rfl, rfl, alike⟩
  | root =>
      have authored : (root.attribute? "lang").isSome =
          (root'.attribute? "lang").isSome := by
        rw [Bool.eq_iff_iff, Element.attribute?, Element.attribute?,
          isSome_lookup_iff, isSome_lookup_iff, alike.names_eq]
      rw [document, document, authored]
      split
      · exact ⟨rfl, rfl, alike⟩
      · exact ⟨rfl, rfl, alike.withAttributes (by simp [alike.names_eq])⟩

theorem failure?_render {locale : String} (listed : locale ∈ page.locales) :
    Outcome.failure? (page.render locale placement) =
      page.root.rendered.findSome? (Outline.fault? locale page.locales) := by
  rw [render, if_pos (by simpa [hasLocale] using listed), Outcome.failure?_map,
    Outline.failure?_render]

theorem rendered_sorted_of_parse {sheet : Sheet}
    (parsed : parse sheet = .ok page) :
    page.root.rendered.Pairwise (·.entry.row < ·.entry.row) := by
  have sorted := sorted_of_parse parsed
  rw [Outline.walk_eq_preorder] at sorted
  exact sorted.sublist (Outline.rendered_sublist page.root)

theorem blankAlike_of_parse {sheet : Sheet}
    (parsed : parse sheet = .ok page) :
    ∀ visited ∈ page.root.walk,
      visited.BlankAlike first second page.locales := by
  intro visited member
  have fit := valuesFit_of_parse parsed visited member
  rw [Outline.BlankAlike, fit.bestValue_eq_empty_iff,
    fit.bestValue_eq_empty_iff]

/-- All locales of a page share one structure.  An entry is blank in all of them
or in none; the documents of two locales are alike; a fault of the structure
that stops one locale stops the other, at the same row or at a value further
up; and a locale fails only at a value when another one does not fail. -/
theorem render_alike {sheet : Sheet} (parsed : parse sheet = .ok page)
    (firstListed : first ∈ page.locales)
    (secondListed : second ∈ page.locales) :
    (∀ visited ∈ page.root.walk,
      (visited.entry.bestValue first page.locales = "" ↔
        visited.entry.bestValue second page.locales = "")) ∧
    (∀ document document',
      page.render first placement = .ok document →
      page.render second placement = .ok document' →
        page.DocumentsAlike first second document document') ∧
    (∀ error row, error.IsStructuralAt row →
      page.render first placement = .error error →
        page.render second placement = .error error ∨
          ∃ earlier value cause, earlier < row ∧
            page.render second placement =
              .error (.fragment earlier second value cause)) ∧
    (∀ document error,
      page.render first placement = .ok document →
      page.render second placement = .error error →
        ∃ row value cause, error = .fragment row second value cause) := by
  have alike : ∀ visited ∈ page.root.walk,
      visited.BlankAlike first second page.locales :=
    blankAlike_of_parse parsed
  have alikeRendered : ∀ outline ∈ page.root.rendered,
      outline.BlankAlike first second page.locales := by
    intro outline member
    apply alike
    rw [Outline.walk_eq_preorder]
    exact (Outline.rendered_sublist page.root).subset member
  refine ⟨alike, ?_, ?_, ?_⟩
  · intro document document' rendered rendered'
    obtain ⟨root, rootRendered, rfl⟩ := root_of_render rendered
    obtain ⟨root', rootRendered', rfl⟩ := root_of_render rendered'
    exact documentsAlike_document
      (Outline.rendersAlike_of_render rootRendered rootRendered')
  · intro error row structural failed
    simp only [← Outcome.failure?_eq_some_iff, failure?_render firstListed,
      failure?_render secondListed] at failed ⊢
    exact Outline.findSome?_fault?_of_structural
      (rendered_sorted_of_parse parsed) alikeRendered structural failed
  · intro document error rendered failed
    have sound : page.root.rendered.findSome?
        (Outline.fault? first page.locales) = none := by
      have failure : Outcome.failure? (page.render first placement) = _ :=
        failure?_render firstListed
      rw [rendered] at failure
      exact failure.symm
    rw [← Outcome.failure?_eq_some_iff, failure?_render secondListed] at failed
    exact Outline.fragment_of_findSome?_fault? alikeRendered sound failed

/-- A sheet with a void element that has a value, below a value that is a
fragment in one of the locales only. -/
def faultySheet : Sheet :=
  ⟨"faulty",
    [["", "", "attribute", "en", "de"], ["path", "", "", "/en", "/de"],
     ["body"], ["", "p", "", "a <b>b</b>", "a <b>b"], ["", "br", "", "", "c"]]⟩

/-- In one sheet both locales are rendered, in the other one none is. -/
theorem render_alike_sheets :
    (∃ page document document', parse mixedSheet = .ok page ∧
      page.render "en" .root = .ok document ∧
      page.render "de" .root = .ok document' ∧
      page.DocumentsAlike "en" "de" document document') ∧
    ∃ page, parse faultySheet = .ok page ∧
      page.render "en" .root = .error (.voidContent 5 "br") ∧
      (page.render "de" .root = .error (.voidContent 5 "br") ∨
        ∃ earlier value cause, earlier < 5 ∧
          page.render "de" .root =
            .error (.fragment earlier "de" value cause)) := by
  constructor
  · have accepted : ((parse mixedSheet).toOption.bind fun page =>
        (page.render "en" .root).toOption.bind fun _ =>
          (page.render "de" .root).toOption).isSome = true := by
      decide +kernel
    have listed : (parse mixedSheet).toOption.map (·.locales) =
        some ["en", "de"] := by decide +kernel
    obtain ⟨document', found⟩ := Option.isSome_iff_exists.mp accepted
    obtain ⟨page, parsed, found⟩ := Option.bind_eq_some_iff.mp found
    obtain ⟨document, rendered, rendered'⟩ := Option.bind_eq_some_iff.mp found
    rw [parsed] at listed
    have locales : page.locales = ["en", "de"] := by simpa using listed
    have parsed := Outcome.eq_ok_of_toOption parsed
    have rendered := Outcome.eq_ok_of_toOption rendered
    have rendered' := Outcome.eq_ok_of_toOption rendered'
    exact ⟨page, document, document', parsed, rendered, rendered',
      (render_alike parsed (by simp [locales]) (by simp [locales])).2.1
        document document' rendered rendered'⟩
  · have failed : (parse faultySheet).toOption.map (fun page =>
        (page.locales, Outcome.failure? (page.render "en" .root))) =
          some (["en", "de"], some (.voidContent 5 "br")) := by decide +kernel
    obtain ⟨page, parsed, found⟩ := Option.map_eq_some_iff.mp failed
    obtain ⟨locales, stopped⟩ := Prod.mk.inj found
    have parsed := Outcome.eq_ok_of_toOption parsed
    have stopped := Outcome.failure?_eq_some_iff.mp stopped
    exact ⟨page, parsed, stopped,
      (render_alike parsed (by simp [locales]) (by simp [locales])).2.2.1
        _ 5 ⟨"br", .inr rfl⟩ stopped⟩

end Page

end WorkbookSite

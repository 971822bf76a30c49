import WorkbookSite.Proofs.OutlineNesting
import WorkbookSite.Proofs.Outcomes
import WorkbookSite.Rendering

/-!
# Faults of rows

Rendering an outline fails at the first of its elements, in the order of the
rows, that has a fault of its own.  A fault lies in the structure of the sheet,
when the element is unknown or a void element is given content, or in the value
of the element, when this is no fragment.
-/

namespace WorkbookSite

open Outcome (failure? failure?_bind failure?_bind_ok failure?_eq_some_iff)

/-- The error is that the row `row` has an unknown element, or a void one with
content. -/
def RenderError.IsStructuralAt (error : RenderError) (row : Nat) : Prop :=
  ∃ key, error = .unknownElement row key ∨ error = .voidContent row key

theorem RenderError.not_isStructuralAt_fragment {row other : Nat}
    {locale value : String} {cause : Markup.FragmentError} :
    ¬ (RenderError.fragment row locale value cause).IsStructuralAt other := by
  rintro ⟨key, unknown | void⟩
  · cases unknown
  · cases void

theorem RenderError.IsStructuralAt.row_unique {error : RenderError}
    {first second : Nat} (here : error.IsStructuralAt first)
    (there : error.IsStructuralAt second) : second = first := by
  obtain ⟨key, rfl | rfl⟩ := here
  · obtain ⟨_, same | other⟩ := there
    · cases same
      rfl
    · cases other
  · obtain ⟨_, other | same⟩ := there
    · cases other
    · cases same
      rfl

namespace Entry

variable {entry : Entry} {locale : String} {order : List String}

/-- The value of the entry is there, and it is refused as content of its
element. -/
def IsRefused (entry : Entry) (locale : String) (order : List String)
    (cause : Markup.FragmentError) : Prop :=
  entry.bestValue locale order ≠ "" ∧
    Markup.Fragment.parse (entry.bestValue locale order) entry.key =
      .error cause

theorem renderValue_eq_error_iff {error : RenderError} :
    entry.renderValue locale order = .error error ↔
      ∃ cause, entry.IsRefused locale order cause ∧
        error = .fragment entry.row locale (entry.bestValue locale order)
          cause := by
  unfold renderValue IsRefused
  simp only
  split
  · rename_i blank
    simp [blank]
  · rename_i filled
    rw [Outcome.mapError_eq_error]
    constructor
    · rintro ⟨cause, refused, rfl⟩
      exact ⟨cause, ⟨filled, refused⟩, rfl⟩
    · rintro ⟨cause, ⟨-, refused⟩, rfl⟩
      exact ⟨cause, refused, rfl⟩

end Entry

namespace Outline

mutual

/-- The outlines that are rendered as elements, each before those below it. -/
def rendered : Outline → List Outline
  | .node entry children => .node entry children :: renderedList children

def renderedList : List Outline → List Outline
  | [] => []
  | child :: children =>
      if child.entry.isAttribute then renderedList children
      else child.rendered ++ renderedList children

end

mutual

theorem rendered_sublist (outline : Outline) :
    outline.rendered.Sublist outline.preorder := by
  cases outline with
  | node entry children =>
      rw [rendered, preorder]
      exact (renderedList_sublist children).cons_cons _

theorem renderedList_sublist (outlines : List Outline) :
    (renderedList outlines).Sublist (preorderList outlines) := by
  cases outlines with
  | nil => exact List.Sublist.refl []
  | cons child children =>
      rw [renderedList, preorderList]
      split
      · exact (renderedList_sublist children).trans
          (List.sublist_append_right _ _)
      · exact (rendered_sublist child).append (renderedList_sublist children)

end

/-- What is wrong with the structure of an element: its name is unknown, or it
is void and has a value or elements below it. -/
def structuralFault? (locale : String) (order : List String) :
    Outline → Option RenderError
  | .node entry children =>
      if !Markup.isElement entry.key then
        some (.unknownElement entry.row entry.key)
      else if Markup.isVoid entry.key &&
          (entry.bestValue locale order != "" ||
            children.any (!·.entry.isAttribute)) then
        some (.voidContent entry.row entry.key)
      else none

/-- What is wrong with an element, its structure first. -/
def fault? (locale : String) (order : List String) (outline : Outline) :
    Option RenderError :=
  (outline.structuralFault? locale order).or
    (failure? (outline.entry.renderValue locale order))

section Render

variable {locale : String} {order : List String}

theorem isStructuralAt_of_structuralFault? {outline : Outline}
    {error : RenderError}
    (found : outline.structuralFault? locale order = some error) :
    error.IsStructuralAt outline.entry.row := by
  cases outline with
  | node entry children =>
      rw [structuralFault?] at found
      split at found
      · cases found
        exact ⟨entry.key, .inl rfl⟩
      · split at found
        · cases found
          exact ⟨entry.key, .inr rfl⟩
        · cases found

/-- A fault of an element is one of its structure or of its value. -/
theorem fault?_cases {outline : Outline} {error : RenderError}
    (found : outline.fault? locale order = some error) :
    outline.structuralFault? locale order = some error ∨
      outline.structuralFault? locale order = none ∧
        ∃ cause, error = .fragment outline.entry.row locale
          (outline.entry.bestValue locale order) cause := by
  rw [fault?, Option.or_eq_some_iff] at found
  rcases found with structural | ⟨sound, failed⟩
  · exact .inl structural
  · obtain ⟨cause, -, rfl⟩ :=
      Entry.renderValue_eq_error_iff.mp (failure?_eq_some_iff.mp failed)
    exact .inr ⟨sound, cause, rfl⟩

mutual

/-- Rendering fails with the fault of the first element that has one. -/
theorem failure?_render (outline : Outline) :
    failure? (outline.render locale order) =
      outline.rendered.findSome? (fault? locale order) := by
  cases outline with
  | node entry children =>
      have below : ∀ content : List Markup.Node,
          failure? (do
            let nested ← renderChildren locale order children
            Except.ok
              { name := entry.key
                attributes := renderAttributes locale order children
                children := content ++ nested : Markup.Element }) =
            (renderedList children).findSome? (fault? locale order) := by
        intro content
        rw [failure?_bind_ok, failure?_renderChildren children]
      rw [render, rendered, List.findSome?_cons, fault?, structuralFault?]
      split
      · rfl
      · split
        · rfl
        · rw [failure?_bind fun content _ => below content, Option.none_or,
            Outline.entry]
          cases failure? (entry.renderValue locale order) <;> rfl

theorem failure?_renderChildren (outlines : List Outline) :
    failure? (renderChildren locale order outlines) =
      (renderedList outlines).findSome? (fault? locale order) := by
  cases outlines with
  | nil => rfl
  | cons child children =>
      rw [renderChildren, renderedList]
      split
      · exact failure?_renderChildren children
      · have beside : ∀ element : Markup.Element,
            failure? (do
              let elements ← renderChildren locale order children
              Except.ok (element.node :: elements)) =
              (renderedList children).findSome? (fault? locale order) := by
          intro element
          rw [failure?_bind_ok, failure?_renderChildren children]
        rw [failure?_bind fun element _ => beside element,
          failure?_render child, List.findSome?_append]

end

end Render

end Outline

end WorkbookSite

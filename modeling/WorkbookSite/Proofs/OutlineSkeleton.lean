import WorkbookSite.Proofs.OutlineNesting

/-!
# Elements and attributes of an outline

Attributes are written in the last of the key columns, so that nothing can
stand under one and none can close an element above it.  For entries laid out
in this way, the skeleton of an outline, which leaves the attributes out, is
the outline of the elements alone, and the attributes of an element are those
that directly follow it.
-/

namespace WorkbookSite

/-- No entry lies deeper than `deepest`, and the attributes are the entries
that lie there. -/
def AttributesDeepest (deepest : Nat) (entries : List Entry) : Prop :=
  ∀ entry ∈ entries, entry.depth ≤ deepest ∧
    (entry.isAttribute = true ↔ entry.depth = deepest)

namespace AttributesDeepest

variable {deepest : Nat} {first : Entry} {entries rest : List Entry}

theorem sublist (shape : AttributesDeepest deepest entries)
    {part : List Entry} (sublist : part.Sublist entries) :
    AttributesDeepest deepest part :=
  fun entry member => shape entry (sublist.subset member)

theorem depth_lt (shape : AttributesDeepest deepest entries)
    {entry : Entry} (member : entry ∈ entries)
    (element : entry.isAttribute = false) : entry.depth < deepest := by
  obtain ⟨bound, isAttribute⟩ := shape entry member
  have differs : entry.depth ≠ deepest := by
    intro same
    simp [isAttribute.mpr same] at element
  omega

theorem takeWhile_of_attribute
    (shape : AttributesDeepest deepest (first :: rest))
    (isAttribute : first.isAttribute = true) :
    rest.takeWhile (first.depth < ·.depth) = [] := by
  have lowest := (shape first List.mem_cons_self).2.mp isAttribute
  cases rest with
  | nil => rfl
  | cons next rest =>
      have bound := (shape next (by simp)).1
      apply List.takeWhile_cons_of_neg
      simp only [decide_eq_true_eq]
      omega

theorem dropWhile_of_attribute
    (shape : AttributesDeepest deepest (first :: rest))
    (isAttribute : first.isAttribute = true) :
    rest.dropWhile (first.depth < ·.depth) = rest := by
  have whole := List.takeWhile_append_dropWhile
    (p := fun entry : Entry => decide (first.depth < entry.depth)) (l := rest)
  rwa [shape.takeWhile_of_attribute isAttribute, List.nil_append] at whole

theorem isAttribute_head_dropWhile
    (shape : AttributesDeepest deepest (first :: rest))
    (element : first.isAttribute = false) {next : Entry}
    (head : next ∈ (rest.dropWhile (first.depth < ·.depth)).head?) :
    next.isAttribute = false := by
  have order := Outline.depth_head_dropWhile head
  have firstDepth := shape.depth_lt List.mem_cons_self element
  have member : next ∈ first :: rest := List.mem_cons_of_mem _
    ((List.dropWhile_sublist _).subset (List.mem_of_mem_head? head))
  cases isAttribute : next.isAttribute with
  | false => rfl
  | true =>
      have lowest := (shape next member).2.mp isAttribute
      omega

theorem isAttribute_head_append
    (shape : AttributesDeepest deepest (first :: rest))
    (element : first.isAttribute = false) {after : List Entry}
    (elementNext : ∀ next ∈ after.head?, next.isAttribute = false) :
    ∀ next ∈ (rest.dropWhile (first.depth < ·.depth) ++ after).head?,
      next.isAttribute = false := by
  intro next head
  rw [List.head?_append] at head
  cases dropped : (rest.dropWhile (first.depth < ·.depth)).head? with
  | none => exact elementNext next (by simpa [dropped] using head)
  | some following =>
      obtain rfl : following = next := by simpa [dropped] using head
      exact shape.isAttribute_head_dropWhile element dropped

end AttributesDeepest

theorem takeWhile_filter {α : Type} {condition kept : α → Bool}
    {items : List α}
    (leftOut : ∀ item ∈ items, kept item = false → condition item = true) :
    (items.filter kept).takeWhile condition =
        (items.takeWhile condition).filter kept ∧
      (items.filter kept).dropWhile condition =
        (items.dropWhile condition).filter kept := by
  induction items with
  | nil => exact ⟨rfl, rfl⟩
  | cons item items induction =>
      obtain ⟨taken, dropped⟩ := induction fun other member =>
        leftOut other (List.mem_cons_of_mem _ member)
      cases keeps : kept item with
      | false =>
          have holds := leftOut item List.mem_cons_self keeps
          simp [keeps, holds, taken, dropped]
      | true => by_cases holds : condition item <;>
          simp [keeps, holds, taken, dropped]

theorem takeWhile_isAttribute_eq_nil {entries : List Entry}
    (elementFirst : ∀ first ∈ entries.head?, first.isAttribute = false) :
    entries.takeWhile (·.isAttribute) = [] := by
  cases entries with
  | nil => rfl
  | cons first rest =>
      exact List.takeWhile_cons_of_neg (by simp [elementFirst first rfl])

namespace Outline

mutual

/-- The outline without its attributes. -/
def skeleton : Outline → Outline
  | .node entry children => .node entry (skeletonList children)

def skeletonList : List Outline → List Outline
  | [] => []
  | outline :: outlines =>
      if outline.entry.isAttribute then skeletonList outlines
      else outline.skeleton :: skeletonList outlines

end

theorem skeletonList_forest {deepest : Nat} {entries : List Entry}
    (shape : AttributesDeepest deepest entries) :
    skeletonList (forest entries) =
      forest (entries.filter (!·.isAttribute)) := by
  fun_induction forest entries with
  | case1 => simp [skeletonList, forest]
  | case2 first rest inner outer =>
      have dropped := outer (shape.sublist
        ((List.dropWhile_sublist _).cons first))
      cases isAttribute : first.isAttribute with
      | true =>
          rw [shape.dropWhile_of_attribute isAttribute] at dropped
          rw [shape.dropWhile_of_attribute isAttribute, skeletonList]
          simp [entry, isAttribute, dropped]
      | false =>
          have taken := inner (shape.sublist
            ((List.takeWhile_sublist _).cons first))
          have deeper : ∀ other ∈ rest, (!other.isAttribute) = false →
              decide (first.depth < other.depth) = true := by
            intro other member leftOut
            have lowest := (shape other (List.mem_cons_of_mem _ member)).2.mp
              (by simpa using leftOut)
            have above := shape.depth_lt List.mem_cons_self isAttribute
            simpa [lowest] using above
          obtain ⟨sameTaken, sameDropped⟩ := takeWhile_filter deeper
          rw [skeletonList, skeleton, taken, dropped,
            List.filter_cons_of_pos (by simp [isAttribute]), forest,
            sameTaken, sameDropped]
          simp [entry, isAttribute]

/-- Nothing stands below an attribute. -/
def Bare (outline : Outline) : Prop :=
  outline.entry.isAttribute = true → outline.children = []

instance (outline : Outline) : Decidable outline.Bare :=
  decidable_of_iff (outline.entry.isAttribute = true →
      outline.children.isEmpty = true)
    (by rw [List.isEmpty_iff, Bare])

theorem bare_of_mem_forest {deepest : Nat} {entries : List Entry}
    (shape : AttributesDeepest deepest entries) :
    ∀ visited ∈ preorderList (forest entries), visited.Bare := by
  fun_induction forest entries with
  | case1 => exact List.forall_mem_nil _
  | case2 first rest inner outer =>
      rw [preorderList, preorder, List.forall_mem_append, List.forall_mem_cons]
      refine ⟨⟨?_, ?_⟩, ?_⟩
      · intro isAttribute
        rw [Outline.children, shape.takeWhile_of_attribute isAttribute, forest]
      · exact inner (shape.sublist ((List.takeWhile_sublist _).cons first))
      · exact outer (shape.sublist ((List.dropWhile_sublist _).cons first))

/-- Of the outlines side by side in a nested list, the attributes are those
the list starts with. -/
theorem attributes_forest {deepest : Nat} {entries : List Entry}
    (shape : AttributesDeepest deepest entries) :
    ((forest entries).filter (·.entry.isAttribute)).map entry =
      entries.takeWhile (·.isAttribute) := by
  fun_induction forest entries with
  | case1 => rfl
  | case2 first rest inner outer =>
      have dropped := outer (shape.sublist
        ((List.dropWhile_sublist _).cons first))
      cases isAttribute : first.isAttribute with
      | true =>
          rw [shape.dropWhile_of_attribute isAttribute] at dropped
          rw [shape.dropWhile_of_attribute isAttribute,
            List.filter_cons_of_pos (by simpa [entry] using isAttribute),
            List.map_cons, dropped, List.takeWhile_cons_of_pos isAttribute]
          rfl
      | false =>
          rw [List.filter_cons_of_neg (by simp [entry, isAttribute]), dropped,
            List.takeWhile_cons_of_neg (by simp [isAttribute]),
            takeWhile_isAttribute_eq_nil]
          intro next head
          exact shape.isAttribute_head_dropWhile isAttribute head

end Outline

end WorkbookSite

import Mathlib.Data.List.Infix
import WorkbookSite.Markup.Token

/-!
# Text before a mark

A comment runs up to the mark that ends it, and the text of an element that is
not read as markup up to an end tag of that element, in any case.  Neither mark
overlaps with itself, so the text is what it is whatever it contains, as long as
the mark is not in it.
-/

namespace WorkbookSite.Markup

theorem splitWhere_eq_some_iff {starts : List Char → Bool}
    {source before after : List Char} :
    splitWhere starts source = some (before, after) ↔
      before ++ after = source ∧ starts after = true ∧
        ∀ later, later <:+ before → later ≠ [] →
          starts (later ++ after) = false := by
  constructor
  · intro found
    refine ⟨splitWhere_append found, ?_⟩
    induction source generalizing before with
    | nil =>
        simp only [splitWhere] at found
        split at found <;> simp_all
    | cons character rest induction =>
        simp only [splitWhere] at found
        split at found
        · simp_all
        · rename_i startsLater
          obtain ⟨⟨inner, tail⟩, inside, same⟩ :=
            Option.map_eq_some_iff.mp found
          obtain ⟨rfl, rfl⟩ := Prod.mk.inj same
          obtain ⟨here, earlier⟩ := induction inside
          refine ⟨here, ?_⟩
          intro later suffix present
          rcases List.suffix_cons_iff.mp suffix with rfl | within
          · rw [List.cons_append, splitWhere_append inside]
            exact Bool.eq_false_iff.mpr startsLater
          · exact earlier later within present
  · intro place
    obtain ⟨rfl, here, earlier⟩ := place
    induction before with
    | nil => cases after <;> simp_all [splitWhere]
    | cons character before induction =>
        have notHere := earlier (character :: before) List.suffix_rfl (by simp)
        have inside := induction fun later suffix present =>
          earlier later (suffix.trans (List.suffix_cons character before))
            present
        rw [List.cons_append] at notHere ⊢
        simp [splitWhere, notHere, inside]

/-- No proper part at the end of the mark is also at its start. -/
def Unbordered (mark : List Char) : Prop :=
  ∀ suffix, suffix <:+ mark → suffix ≠ [] → suffix <+: mark → suffix = mark

instance (mark : List Char) : Decidable (Unbordered mark) :=
  decidable_of_iff (∀ suffix ∈ mark.tails,
    suffix ≠ [] → suffix <+: mark → suffix = mark)
    (by simp only [List.mem_tails, Unbordered])

theorem Unbordered.prefix_of_append {mark before rest : List Char}
    (unbordered : Unbordered mark) (present : before ≠ [])
    (found : mark <+: before ++ (mark ++ rest)) : mark <+: before := by
  rcases List.prefix_or_prefix_of_prefix found
      (List.prefix_append before (mark ++ rest)) with short | long
  · exact short
  · obtain ⟨overlap, rfl⟩ := long
    have continued : overlap <+: (before ++ overlap) ++ rest :=
      (List.prefix_append_right_inj before).mp found
    have atStart : overlap <+: before ++ overlap :=
      List.prefix_of_prefix_length_le continued
        (List.prefix_append (before ++ overlap) rest) (by simp)
    by_cases none : overlap = []
    · simp [none]
    · have whole := unbordered overlap (List.suffix_append before overlap) none
        atStart
      exact absurd (List.self_eq_append_left.mp whole) present

theorem unbordered_cons {initial : Char} {more : List Char}
    (once : initial ∉ more) : Unbordered (initial :: more) := by
  intro suffix atEnd present atStart
  rcases List.suffix_cons_iff.mp atEnd with whole | within
  · exact whole
  · cases suffix with
    | nil => exact absurd rfl present
    | cons first others =>
        obtain ⟨rfl, -⟩ := List.cons_prefix_cons.mp atStart
        exact absurd (within.subset List.mem_cons_self) once

theorem unbordered_commentEnd : Unbordered "-->".toList := by
  intro suffix atEnd present atStart
  have spelled : "-->".toList = ['-', '-', '>'] := by decide
  simp only [spelled, List.suffix_cons_iff, List.suffix_nil] at atEnd
  rcases atEnd with whole | rfl | rfl | none
  · rw [whole, spelled]
  · exact absurd atStart (by decide)
  · exact absurd atStart (by decide)
  · exact absurd none present

/-- The text before a mark that is read up to `change`: the mark follows it and
is not in it. -/
theorem splitWhere_mark_iff {starts : List Char → Bool} {change : Char → Char}
    {mark : List Char} (body after : List Char)
    (marked : ∀ source, starts source = true ↔ mark <+: source.map change)
    (written : mark ≠ []) (unbordered : Unbordered mark) :
    splitWhere starts (body ++ after) = some (body, after) ↔
      mark <+: after.map change ∧ ¬ mark <:+: body.map change := by
  rw [splitWhere_eq_some_iff, marked]
  constructor
  · intro place
    obtain ⟨-, here, earlier⟩ := place
    refine ⟨here, ?_⟩
    intro inside
    obtain ⟨changed, atStart, atEnd⟩ :=
      List.infix_iff_prefix_suffix.mp inside
    obtain ⟨later, suffix, rfl⟩ := List.suffix_map_iff.mp atEnd
    have present : later ≠ [] := by
      intro same
      subst same
      exact written (List.prefix_nil.mp atStart)
    have starting : starts (later ++ after) = true := by
      rw [marked, List.map_append]
      exact atStart.trans (List.prefix_append _ _)
    rw [earlier later suffix present] at starting
    contradiction
  · intro place
    obtain ⟨here, notInside⟩ := place
    refine ⟨rfl, here, ?_⟩
    intro later suffix present
    rw [Bool.eq_false_iff, Ne, marked, List.map_append]
    intro found
    obtain ⟨rest, split⟩ := here
    rw [← split] at found
    have inLater := unbordered.prefix_of_append
      (by simpa using present) found
    exact notInside (inLater.isInfix.trans (suffix.map change).isInfix)

theorem splitWhere_mark_eq_none {mark source : List Char}
    (absent : ¬ mark <:+: source) :
    splitWhere (mark.isPrefixOf ·) source = none := by
  rw [Option.eq_none_iff_forall_ne_some]
  rintro ⟨before, after⟩ found
  obtain ⟨rfl, here, -⟩ := splitWhere_eq_some_iff.mp found
  have starts := List.isPrefixOf_iff_prefix.mp here
  exact absent (starts.isInfix.trans (List.suffix_append before after).isInfix)

theorem splitWhere_mark {mark before : List Char} (written : mark ≠ [])
    (unbordered : Unbordered mark) (absent : ¬ mark <:+: before)
    (rest : List Char) :
    splitWhere (mark.isPrefixOf ·) (before ++ (mark ++ rest)) =
      some (before, mark ++ rest) := by
  have marked : ∀ source, mark.isPrefixOf source = true ↔
      mark <+: source.map id := by
    simp
  rw [splitWhere_mark_iff before (mark ++ rest) marked written unbordered,
    List.map_id, List.map_id]
  exact ⟨List.prefix_append mark rest, absent⟩

theorem splitWhere_commentEnd_iff (body after : List Char) :
    splitWhere ("-->".toList.isPrefixOf ·) (body ++ after) =
        some (body, after) ↔
      "-->".toList <+: after ∧ ¬ "-->".toList <:+: body := by
  have marked : ∀ source, "-->".toList.isPrefixOf source = true ↔
      "-->".toList <+: source.map id := by
    simp
  simpa using splitWhere_mark_iff body after marked (by decide)
    unbordered_commentEnd

theorem startsEndTag_iff {name : String} {source : List Char} :
    startsEndTag name source = true ↔
      '<' :: '/' :: name.toList <+: lowercase source := by
  rw [startsEndTag, beq_iff_eq, List.prefix_iff_eq_take, lowercase, lowercase,
    List.map_take, eq_comm]

theorem splitWhere_endTag_iff {name : String} (body after : List Char)
    (single : '<' ∉ name.toList) :
    splitWhere (startsEndTag name) (body ++ after) = some (body, after) ↔
      '<' :: '/' :: name.toList <+: lowercase after ∧
        ¬ '<' :: '/' :: name.toList <:+: lowercase body :=
  splitWhere_mark_iff body after (fun _ => startsEndTag_iff)
    (List.cons_ne_nil _ _) (unbordered_cons (by simp [single]))

end WorkbookSite.Markup

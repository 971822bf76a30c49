import WorkbookSite.Proofs.FragmentRoundTrip
import WorkbookSite.Proofs.ImpliedEnds

/-!
# Nested elements

Which elements can stand inside each other in a parsed fragment is decided by
neighbours alone: a start tag ends the innermost open element if it closes it,
and then the next one, but stops at the first element that it does not close by
itself.  So an element can stay open around one that would have closed it, even
if the elements between the two may all have their end tags left out.
-/

namespace WorkbookSite.Markup

/-- The names belong to elements that stand directly inside each other, the
first of them among the nodes. -/
def HasPath : List Node → List String → Prop
  | _, [] => True
  | nodes, name :: names =>
      ∃ attributes children,
        Node.element name attributes children ∈ nodes ∧ HasPath children names

/-- An element named `outer` may have one named `inner` among its children. -/
structure MayHold (outer inner : String) : Prop where
  stays : startTagCloses outer inner = false
  nonvoid : isVoid outer = false
  markup : textMode outer = .normal

theorem HasPath.isElementName {nodes : List Node} {names : List String}
    (path : HasPath nodes names)
    (wellFormed : ∀ node ∈ nodes, node.WellFormed) :
    ∀ name ∈ names, IsElementName name := by
  induction names generalizing nodes with
  | nil => exact List.forall_mem_nil _
  | cons name names induction =>
      obtain ⟨attributes, children, listed, inner⟩ := path
      cases wellFormed _ listed with
      | element fits separate inside =>
          exact List.forall_mem_cons.mpr ⟨fits.named, induction inner inside⟩

theorem ElementFits.mayHold {name inner : String}
    {attributes innerAttributes : List (String × String)}
    {children innerChildren : List Node}
    (fits : ElementFits name attributes children)
    (listed : .element inner innerAttributes innerChildren ∈ children) :
    MayHold name inner where
  stays := fits.unclosed listed
  nonvoid := by
    by_contra void
    rw [fits.void (by simpa using void)] at listed
    exact List.not_mem_nil listed
  markup := by
    by_contra mode
    rcases fits.body mode with none | ⟨content, text, -⟩
    · rw [none] at listed
      exact List.not_mem_nil listed
    · rw [text] at listed
      simp at listed

theorem HasPath.isChain {nodes : List Node} {names : List String}
    (path : HasPath nodes names)
    (wellFormed : ∀ node ∈ nodes, node.WellFormed) :
    names.IsChain MayHold := by
  induction names generalizing nodes with
  | nil => exact .nil
  | cons name names induction =>
      obtain ⟨attributes, children, listed, inner⟩ := path
      cases wellFormed _ listed with
      | element fits separate inside =>
          refine List.isChain_cons.mpr ⟨?_, induction inner inside⟩
          intro next first
          cases names with
          | nil => cases first
          | cons other names =>
              cases first
              obtain ⟨_, _, innerListed, -⟩ := inner
              exact fits.mayHold innerListed

/-- Elements of these names, each the only child of the one before it. -/
def nested : List String → List Node
  | [] => []
  | name :: names => [.element name [] (nested names)]

theorem hasPath_nested (names : List String) : HasPath (nested names) names := by
  induction names with
  | nil => trivial
  | cons name names induction =>
      exact ⟨[], nested names, List.mem_cons_self, induction⟩

theorem wellFormedNodes_nested {names : List String}
    (named : ∀ name ∈ names, IsElementName name)
    (holds : names.IsChain MayHold) : WellFormedNodes (nested names) := by
  induction names with
  | nil => exact .nil
  | cons name names induction =>
      obtain ⟨here, later⟩ := List.forall_mem_cons.mp named
      obtain ⟨first, chain⟩ := List.isChain_cons.mp holds
      have inside := induction later chain
      have fits : ElementFits name [] (nested names) := by
        cases names with
        | nil => exact {
            named := here
            attributesNamed := nofun
            void := fun _ => rfl
            unclosed := nofun
            body := fun _ => .inl rfl }
        | cons inner names =>
            have mayHold := first inner rfl
            refine {
              named := here
              attributesNamed := nofun
              void := fun void => absurd void (by simp [mayHold.nonvoid])
              unclosed := ?_
              body := fun mode => absurd mayHold.markup mode }
            intro start attributes children listed
            cases List.mem_singleton.mp listed
            exact mayHold.stays
      refine ⟨.singleton _, List.forall_mem_singleton.mpr ?_⟩
      exact .element fits inside.1 inside.2

/-- Elements of these names stand inside each other in some parsed fragment if
and only if each may directly hold the next. -/
theorem exists_parse_hasPath_iff {context : String}
    (markup : textMode context = .normal) {names : List String} :
    (∃ source nodes, Fragment.parse source context = .ok nodes ∧
        HasPath nodes names) ↔
      (∀ name ∈ names, IsElementName name) ∧ names.IsChain MayHold := by
  simp only [Fragment.parse, markup]
  constructor
  · rintro ⟨source, nodes, parsed, path⟩
    have wellFormed := (wellFormedNodes_of_parseMarkup parsed).2
    exact ⟨path.isElementName wellFormed, path.isChain wellFormed⟩
  · rintro ⟨named, holds⟩
    refine ⟨String.ofList (Node.printList false (nested names)), nested names,
      ?_, hasPath_nested names⟩
    rw [String.toList_ofList]
    exact (wellFormedNodes_nested named holds).parseMarkup_print

theorem MayHold.of_hasOptionalEnd {outer inner : String}
    (optional : hasOptionalEnd outer = true)
    (stays : startTagCloses outer inner = false) : MayHold outer inner where
  stays := stays
  nonvoid := isVoid_of_hasOptionalEnd optional
  markup := by
    have each : ∀ name ∈ optionalEndNames, textMode name = .normal := by decide
    exact each outer (List.contains_iff_mem.mp optional)

/-- One of the two elements that nearly every start tag ends. -/
def EndsAtContent (name : String) : Prop :=
  name = "caption" ∨ name = "colgroup"

instance (name : String) : Decidable (EndsAtContent name) :=
  inferInstanceAs (Decidable (_ ∨ _))

theorem EndsAtContent.eq_col {outer inner : String}
    (ends : EndsAtContent outer)
    (stays : startTagCloses outer inner = false) : inner = "col" := by
  rcases ends with rfl | rfl <;> simpa [startTagCloses] using stays

/-- The start tags that end any other element are listed one by one. -/
theorem mem_elementNames_of_startTagCloses {outer inner : String}
    (closes : startTagCloses outer inner = true)
    (other : ¬ EndsAtContent outer) : inner ∈ elementNames := by
  have known : ∀ {starts : List String},
      (∀ start ∈ starts, start ∈ elementNames) →
        starts.contains inner = true → inner ∈ elementNames :=
    fun each listed => each inner (List.contains_iff_mem.mp listed)
  unfold startTagCloses at closes
  split at closes
  case h_2 | h_6 =>
    rw [eq_of_beq closes]
    decide
  case h_14 | h_15 => exact absurd (by decide) other
  case h_16 => cases closes
  all_goals exact known (by decide) closes

/-- An element that can stay open between one named `outer` and one that would
have closed it. -/
def separator (outer : String) : String := if outer = "p" then "li" else "p"

theorem separator_stays {outer inner : String}
    (closes : startTagCloses outer inner = true)
    (other : ¬ EndsAtContent outer) :
    hasOptionalEnd (separator outer) = true ∧
      startTagCloses outer (separator outer) = false ∧
      startTagCloses (separator outer) inner = false := by
  have each : ∀ outer ∈ optionalEndNames, EndsAtContent outer ∨
      ∀ inner ∈ elementNames, startTagCloses outer inner = true →
        hasOptionalEnd (separator outer) = true ∧
          startTagCloses outer (separator outer) = false ∧
          startTagCloses (separator outer) inner = false := by
    decide +kernel
  have optional := Assembly.hasOptionalEnd_of_startTagCloses closes
  rcases each outer (List.contains_iff_mem.mp optional) with ends | plain
  · exact absurd ends other
  · exact plain inner (mem_elementNames_of_startTagCloses closes other) closes

/-- No element of the list ends at the next one. -/
def StayOpen (names : List String) : Prop :=
  names.IsChain fun outer inner => startTagCloses outer inner = false

theorem stayOpen_cons_cons {outer inner : String} {names : List String} :
    StayOpen (outer :: inner :: names) ↔
      startTagCloses outer inner = false ∧ StayOpen (inner :: names) :=
  List.isChain_cons_cons

theorem stayOpen_singleton (name : String) : StayOpen [name] :=
  .singleton name

theorem StayOpen.isChain_mayHold {outer inner : String}
    {between : List String} (optional : hasOptionalEnd outer = true)
    (others : ∀ name ∈ between, hasOptionalEnd name = true)
    (stay : StayOpen (outer :: (between ++ [inner]))) :
    (outer :: (between ++ [inner])).IsChain MayHold := by
  induction between generalizing outer with
  | nil =>
      exact List.isChain_pair.mpr
        (.of_hasOptionalEnd optional (stayOpen_cons_cons.mp stay).1)
  | cons next between induction =>
      obtain ⟨nextOptional, others⟩ := List.forall_mem_cons.mp others
      obtain ⟨here, later⟩ := stayOpen_cons_cons.mp stay
      exact List.isChain_cons_cons.mpr
        ⟨.of_hasOptionalEnd optional here, induction nextOptional others later⟩

/-- Only a `col` element can stand in an element that ends at nearly every
start tag, and its end tag is not one that may be left out. -/
theorem EndsAtContent.exists_required {outer inner : String}
    {between : List String} (ends : EndsAtContent outer)
    (closes : startTagCloses outer inner = true)
    (stay : StayOpen (outer :: (between ++ [inner]))) :
    ∃ name ∈ between, hasOptionalEnd name = false := by
  cases between with
  | nil =>
      have stays := (stayOpen_cons_cons.mp stay).1
      rw [closes] at stays
      cases stays
  | cons next between =>
      have stays := (stayOpen_cons_cons.mp stay).1
      obtain rfl := ends.eq_col stays
      exact ⟨"col", List.mem_cons_self, by decide⟩

namespace Fragment

theorem stayOpen_of_parse {source context : String} {nodes : List Node}
    {above below : List String} (markup : textMode context = .normal)
    (parsed : parse source context = .ok nodes)
    (path : HasPath nodes (above ++ below)) : StayOpen below := by
  have holds := ((exists_parse_hasPath_iff markup).mp
    ⟨source, nodes, parsed, path⟩).2
  exact (List.IsChain.right_of_append holds).imp fun _ _ => MayHold.stays

theorem exists_parse_of_stayOpen {context outer inner : String}
    {between : List String} (markup : textMode context = .normal)
    (closes : startTagCloses outer inner = true)
    (optional : ∀ name ∈ between, hasOptionalEnd name = true)
    (stay : StayOpen (outer :: (between ++ [inner]))) :
    ∃ source nodes, parse source context = .ok nodes ∧
      HasPath nodes (outer :: (between ++ [inner])) := by
  have outerOptional := Assembly.hasOptionalEnd_of_startTagCloses closes
  have named : ∀ name, hasOptionalEnd name = true → IsElementName name := by
    have known : ∀ name ∈ optionalEndNames, name ∈ elementNames := by decide
    exact fun name optional =>
      isElementName_of_mem (known name (List.contains_iff_mem.mp optional))
  have innerNamed : IsElementName inner := by
    apply isElementName_of_mem
    apply mem_elementNames_of_startTagCloses closes
    intro ends
    obtain ⟨name, listed, required⟩ := ends.exists_required closes stay
    rw [optional name listed] at required
    cases required
  apply (exists_parse_hasPath_iff markup).mpr
  refine ⟨List.forall_mem_cons.mpr ⟨named outer outerOptional, ?_⟩,
    stay.isChain_mayHold outerOptional optional⟩
  exact List.forall_mem_append.mpr
    ⟨fun name listed => named name (optional name listed),
      List.forall_mem_singleton.mpr innerNamed⟩

/-- How far a start tag reaches out of elements whose end tags may be left out.
Such elements can stand between one element and another that would have closed
it, wherever each of them is kept open by the next; only the elements that end
at nearly every start tag never hold what closes them. -/
theorem reaches_through_iff {context outer inner : String}
    (markup : textMode context = .normal)
    (closes : startTagCloses outer inner = true) :
    (∀ between : List String,
      (∀ name ∈ between, hasOptionalEnd name = true) →
        ((∃ source nodes above, parse source context = .ok nodes ∧
            HasPath nodes (above ++ outer :: (between ++ [inner]))) ↔
          StayOpen (outer :: (between ++ [inner])))) ∧
    ((∀ source nodes above between, parse source context = .ok nodes →
        HasPath nodes (above ++ outer :: (between ++ [inner])) →
          ∃ name ∈ between, hasOptionalEnd name = false) ↔
      EndsAtContent outer) := by
  constructor
  · intro between optional
    constructor
    · rintro ⟨source, nodes, above, parsed, path⟩
      exact stayOpen_of_parse markup parsed path
    · intro stay
      obtain ⟨source, nodes, parsed, path⟩ :=
        exists_parse_of_stayOpen markup closes optional stay
      exact ⟨source, nodes, [], parsed, path⟩
  · constructor
    · intro law
      by_contra other
      obtain ⟨optional, outside, inside⟩ := separator_stays closes other
      have stay : StayOpen (outer :: ([separator outer] ++ [inner])) :=
        stayOpen_cons_cons.mpr ⟨outside,
          stayOpen_cons_cons.mpr ⟨inside, stayOpen_singleton inner⟩⟩
      obtain ⟨source, nodes, parsed, path⟩ := exists_parse_of_stayOpen markup
        closes (List.forall_mem_singleton.mpr optional) stay
      obtain ⟨name, listed, required⟩ := law source nodes [] _ parsed path
      rw [List.mem_singleton.mp listed, optional] at required
      cases required
    · intro ends source nodes above between parsed path
      exact ends.exists_required closes (stayOpen_of_parse markup parsed path)

/-- A list item in a paragraph of another item, neither of them ended. -/
def itemInParagraph : String := "<li><p>a<li>b"

theorem nested_itemInParagraph :
    parse itemInParagraph "ul" =
        .ok [.element "li" []
          [.element "p" [] [.text "a", .element "li" [] [.text "b"]]]] ∧
      ¬ ∀ source context nodes above outer between inner,
        textMode context = .normal → parse source context = .ok nodes →
          startTagCloses outer inner = true →
            HasPath nodes (above ++ outer :: (between ++ [inner])) →
              ∃ name ∈ between, hasOptionalEnd name = false := by
  have parsed : parse itemInParagraph "ul" =
      .ok [.element "li" []
        [.element "p" [] [.text "a", .element "li" [] [.text "b"]]]] := by
    cbv
  refine ⟨parsed, ?_⟩
  intro law
  have path : HasPath
      [.element "li" []
        [.element "p" [] [.text "a", .element "li" [] [.text "b"]]]]
      ([] ++ "li" :: (["p"] ++ ["li"])) := by
    simp [HasPath]
  obtain ⟨name, listed, required⟩ :=
    law _ _ _ _ _ _ _ (by decide) parsed (by decide) path
  rw [List.mem_singleton.mp listed] at required
  exact absurd required (by decide)

theorem reaches_through_items :
    textMode "ul" = .normal ∧ startTagCloses "li" "li" = true ∧
      (∃ source nodes above, parse source "ul" = .ok nodes ∧
        HasPath nodes (above ++ "li" :: (["p"] ++ ["li"]))) ∧
      ¬ ∀ source nodes above between, parse source "ul" = .ok nodes →
        HasPath nodes (above ++ "li" :: (between ++ ["li"])) →
          ∃ name ∈ between, hasOptionalEnd name = false := by
  have exactly := @reaches_through_iff "ul" "li" "li" (by decide) (by decide)
  have stay : StayOpen ("li" :: (["p"] ++ ["li"])) := by
    simp [stayOpen_cons_cons, stayOpen_singleton, startTagCloses,
      paragraphEnders]
  exact ⟨by decide, by decide,
    (exactly.1 ["p"] (by decide)).mpr stay,
    fun law => absurd (exactly.2.mp law) (by decide)⟩

end Fragment

end WorkbookSite.Markup

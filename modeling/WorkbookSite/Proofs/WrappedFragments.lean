import WorkbookSite.Proofs.NestedElements

/-!
# Wrapped fragments

A parsed fragment that is printed between the tags of an element becomes the
content of this element, unless one of its own elements ends it.  Then the
fragment falls apart: what follows stands beside the element, and the end tag
has nothing to end.  Inline markup ends no list item, paragraph, table cell or
ruby text, but it does end a caption.
-/

namespace WorkbookSite.Markup

/-- An element of that name has its content read as markup. -/
structure HoldsMarkup (name : String) : Prop where
  named : IsElementName name
  nonvoid : isVoid name = false
  markup : textMode name = .normal

/-- The printed nodes between the tags of an element. -/
def wrapped (holder : String) (nodes : List Node) : String :=
  "<" ++ holder ++ ">" ++ String.ofList (Node.printList false nodes) ++
    "</" ++ holder ++ ">"

/-- Whether the node is an element whose start tag ends an open `holder`. -/
def Node.ends (holder : String) : Node → Bool
  | .element name _ _ => startTagCloses holder name
  | .text _ | .comment _ => false

variable {holder : String} {nodes : List Node}

theorem HoldsMarkup.fits (holds : HoldsMarkup holder)
    (stays : ∀ node ∈ nodes, node.ends holder = false) :
    ElementFits holder [] nodes where
  named := holds.named
  attributesNamed := nofun
  void := fun void => absurd void (by simp [holds.nonvoid])
  unclosed := fun listed => stays _ listed
  body := fun mode => absurd holds.markup mode

theorem HoldsMarkup.scans_startTag (holds : HoldsMarkup holder) (total : Nat)
    (after : List Char) :
    Scans total ('<' :: (holder.toList ++ '>' :: after))
      [.startTag ⟨holder, [], false⟩] after := by
  have empty : ElementFits holder [] [] := holds.fits nofun
  have opening : Scans total _ [.startTag ⟨holder, [], false⟩] after :=
    empty.scans_startTag total after (.inr holds.markup)
  exact opening

/-- The tokens of nodes between the tags of an element, whether or not they end
it. -/
theorem HoldsMarkup.scan_wrapped (holds : HoldsMarkup holder)
    (wellFormed : WellFormedNodes nodes) :
    Token.scan (wrapped holder nodes).toList =
      (.startTag ⟨holder, [], false⟩ ::
        (Node.tokensList nodes ++ [.endTag holder]), none) := by
  have written : (wrapped holder nodes).toList =
      '<' :: (holder.toList ++ '>' :: (Node.printList false nodes ++
        '<' :: '/' :: (holder.toList ++ '>' :: []))) := by
    simp [wrapped]
  generalize total : utf8Length (wrapped holder nodes).toList = length
  have contents : Scans length _ (Node.tokensList nodes) _ :=
    scans_printList
      (fun node listed rest stops =>
        (wellFormed.2 node listed).scans length rest stops)
      wellFormed.1 (startsMarkup_cons ('/' :: (holder.toList ++ '>' :: [])))
  have scanned := (holds.scans_startTag length _).trans
    (contents.trans (holds.named.scans_endTag length []))
  rw [← written, Scans] at scanned
  rw [Token.scan, total, scanned, Token.scanRest, List.append_nil]
  rfl

theorem HoldsMarkup.parseMarkup_of_stays (holds : HoldsMarkup holder)
    (wellFormed : WellFormedNodes nodes)
    (stays : ∀ node ∈ nodes, node.ends holder = false) :
    Fragment.parseMarkup (wrapped holder nodes).toList =
      .ok [.element holder [] nodes] := by
  have inside : WellFormedNodes [.element holder [] nodes] :=
    ⟨.singleton _, List.forall_mem_singleton.mpr
      (.element (holds.fits stays) wellFormed.1 wellFormed.2)⟩
  have tokens : Node.tokensList [.element holder [] nodes] =
      .startTag ⟨holder, [], false⟩ ::
        (Node.tokensList nodes ++ [.endTag holder]) := by
    simp [Node.tokensList, Node.tokens, holds.nonvoid]
  rw [Fragment.parseMarkup, holds.scan_wrapped wellFormed]
  simp only
  rw [← tokens, inside.foldlM_tokens]
  rfl

namespace Assembly

theorem takeStartTag_of_closes {innermost : Element} {finished : List Node}
    {tag : StartTag} (closes : startTagCloses innermost.name tag.name = true) :
    takeStartTag ⟨[innermost], finished⟩ tag =
      takeStartTag ⟨[], finished ++ [innermost.node]⟩ tag := by
  have closed : closeWhile (startTagCloses · tag.name)
      ⟨[innermost], finished⟩ = ⟨[], finished ++ [innermost.node]⟩ := by
    simp [closeWhile, closes, closeMany, close, append, modifyNodes]
  have stays : closeWhile (startTagCloses · tag.name)
      ⟨[], finished ++ [innermost.node]⟩ =
        ⟨[], finished ++ [innermost.node]⟩ := rfl
  rw [takeStartTag, takeStartTag, closed, stays]

end Assembly

/-- An element that ends the one around it is taken as if that one had been
closed before. -/
theorem Node.foldlM_tokens_of_ends {node : Node} {children finished : List Node}
    (ends : node.ends holder = true) :
    node.tokens.foldlM Assembly.take ⟨[⟨holder, [], children⟩], finished⟩ =
      node.tokens.foldlM Assembly.take
        ⟨[], finished ++ [.element holder [] children]⟩ := by
  cases node with
  | text content => cases ends
  | comment content => cases ends
  | element name attributes inner =>
      have same : Assembly.takeStartTag ⟨[⟨holder, [], children⟩], finished⟩
          ⟨name, attributes, isVoid name⟩ =
          Assembly.takeStartTag ⟨[], finished ++ [.element holder [] children]⟩
            ⟨name, attributes, isVoid name⟩ :=
        Assembly.takeStartTag_of_closes ends
      rw [Node.tokens, List.foldlM_cons, List.foldlM_cons, Assembly.take,
        Assembly.take, same]

theorem Node.tokensList_append (first second : List Node) :
    Node.tokensList (first ++ second) =
      Node.tokensList first ++ Node.tokensList second := by
  induction first with
  | nil => rfl
  | cons node first induction =>
      rw [List.cons_append, Node.tokensList, Node.tokensList, induction,
        List.append_assoc]

/-- The nodes before the one that ends the element go into it, and the others
stand beside it. -/
theorem WellFormedNodes.foldlM_of_ends
    {before after : List Node} {node : Node}
    (wellFormed : WellFormedNodes (before ++ node :: after))
    (stays : ∀ other ∈ before, other.ends holder = false)
    (ends : node.ends holder = true) :
    (Node.tokensList (before ++ node :: after)).foldlM Assembly.take
        ⟨[⟨holder, [], []⟩], []⟩ =
      .ok ⟨[], .element holder [] before :: node :: after⟩ := by
  obtain ⟨separate, each⟩ := wellFormed
  have inside : (Node.tokensList before).foldlM Assembly.take
      ⟨[⟨holder, [], []⟩], []⟩ = .ok ⟨[⟨holder, [], before⟩], []⟩ := by
    refine Assembly.foldlM_tokensList
      (fun other listed =>
        (each other (List.mem_append_left _ listed)).foldlM_tokens) _ ?_
    refine ⟨List.IsChain.left_of_append separate, ?_⟩
    intro start attributes inner listed _ same
    cases same
    exact stays _ listed
  have beside : (Node.tokensList (node :: after)).foldlM Assembly.take
      ⟨[], [.element holder [] before]⟩ =
        .ok ⟨[], .element holder [] before :: node :: after⟩ := by
    refine Assembly.foldlM_tokensList
      (fun other listed =>
        (each other (List.mem_append_right _ listed)).foldlM_tokens) _ ?_
    refine ⟨List.isChain_cons_cons.mpr
      ⟨.inl rfl, List.IsChain.right_of_append separate⟩, ?_⟩
    intro start attributes inner listed _ same
    cases same
  have closed : (Node.tokensList (node :: after)).foldlM Assembly.take
      ⟨[⟨holder, [], before⟩], []⟩ =
        (Node.tokensList (node :: after)).foldlM Assembly.take
          ⟨[], [.element holder [] before]⟩ := by
    rw [Node.tokensList, List.foldlM_append, List.foldlM_append,
      Node.foldlM_tokens_of_ends ends, List.nil_append]
  rw [Node.tokensList_append, List.foldlM_append, inside]
  exact closed.trans beside

theorem HoldsMarkup.parseMarkup_of_ends (holds : HoldsMarkup holder)
    (wellFormed : WellFormedNodes nodes)
    (ends : nodes.any (Node.ends holder) = true) :
    Fragment.parseMarkup (wrapped holder nodes).toList =
      .error (.unexpectedEndTag holder) := by
  have some : (nodes.find? (Node.ends holder)).isSome = true :=
    List.find?_isSome.mpr (List.any_eq_true.mp ends)
  obtain ⟨node, found⟩ := Option.isSome_iff_exists.mp some
  obtain ⟨nodeEnds, before, after, rfl, stays⟩ :=
    List.find?_eq_some_iff_append.mp found
  have opened : Assembly.takeStartTag {} ⟨holder, [], false⟩ =
      ⟨[⟨holder, [], []⟩], []⟩ := by
    simp [Assembly.takeStartTag, holds.nonvoid, Assembly.openElement,
      Assembly.closeWhile, Assembly.closeMany]
  have taken := wellFormed.foldlM_of_ends
    (fun other listed => by simpa using stays other listed) nodeEnds
  have ending : Assembly.takeEndTag
      ⟨[], .element holder [] before :: node :: after⟩ holder =
        .error (.unexpectedEndTag holder) := by
    simp [Assembly.takeEndTag, holds.nonvoid]
  have run : List.foldlM Assembly.take {}
      (.startTag ⟨holder, [], false⟩ ::
        (Node.tokensList (before ++ node :: after) ++ [.endTag holder])) =
      .error (.unexpectedEndTag holder) := by
    rw [List.foldlM_cons, Assembly.take, opened]
    change List.foldlM Assembly.take _ (_ ++ _) = _
    rw [List.foldlM_append, taken]
    change List.foldlM Assembly.take _ [.endTag holder] = _
    rw [List.foldlM_cons, Assembly.take, ending]
    rfl
  rw [Fragment.parseMarkup, holds.scan_wrapped wellFormed]
  simp only
  rw [run]
  rfl

/-- A fragment stays in an element unless it has an element that ends it. -/
theorem HoldsMarkup.parseMarkup_wrapped (holds : HoldsMarkup holder)
    (wellFormed : WellFormedNodes nodes) :
    Fragment.parseMarkup (wrapped holder nodes).toList =
      if nodes.any (Node.ends holder) then .error (.unexpectedEndTag holder)
      else .ok [.element holder [] nodes] := by
  split
  · rename_i ends
    exact holds.parseMarkup_of_ends wellFormed ends
  · rename_i stays
    refine holds.parseMarkup_of_stays wellFormed fun node listed => ?_
    by_contra ends
    exact stays (List.any_eq_true.mpr ⟨node, listed, by simpa using ends⟩)

/-- Elements of running text. -/
def inlineNames : List String :=
  ["a", "abbr", "b", "bdi", "bdo", "br", "cite", "code", "em", "i", "img",
   "kbd", "mark", "q", "s", "samp", "small", "span", "strong", "sub", "sup",
   "u", "var"]

/-- Elements that hold running text and may be left without an end tag. -/
def inlineHolders : List String :=
  ["li", "dt", "dd", "p", "rt", "rp", "td", "th", "caption"]

/-- Every element among the nodes is inline, at any depth. -/
def Inline (nodes : List Node) : Prop :=
  ∀ names, HasPath nodes names → ∀ name ∈ names, name ∈ inlineNames

def Node.isElement : Node → Bool
  | .element _ _ _ => true
  | .text _ | .comment _ => false

theorem inline_iff : Inline nodes ↔ ∀ {name attributes children},
    Node.element name attributes children ∈ nodes →
      name ∈ inlineNames ∧ Inline children := by
  constructor
  · intro inline name attributes children listed
    refine ⟨inline [name] ⟨attributes, children, listed, trivial⟩ name
      List.mem_cons_self, fun names path inner here => ?_⟩
    exact inline (name :: names) ⟨attributes, children, listed, path⟩ inner
      (List.mem_cons_of_mem name here)
  · intro each names path
    cases names with
    | nil => exact List.forall_mem_nil _
    | cons name names =>
        obtain ⟨attributes, children, listed, below⟩ := path
        obtain ⟨here, inner⟩ := each listed
        exact List.forall_mem_cons.mpr ⟨here, inner names below⟩

theorem holdsMarkup_of_mem (listed : holder ∈ inlineHolders) :
    HoldsMarkup holder := by
  have each : ∀ name ∈ inlineHolders,
      name ∈ elementNames ∧ isVoid name = false ∧ textMode name = .normal := by
    decide
  obtain ⟨known, nonvoid, markup⟩ := each holder listed
  exact ⟨isElementName_of_mem known, nonvoid, markup⟩

/-- Of the elements that hold running text only a caption ends at inline
markup. -/
theorem startTagCloses_inline {name : String}
    (listed : holder ∈ inlineHolders) (inline : name ∈ inlineNames) :
    startTagCloses holder name = (holder == "caption") := by
  have each : ∀ holder ∈ inlineHolders, ∀ name ∈ inlineNames,
      startTagCloses holder name = (holder == "caption") := by
    decide
  exact each holder listed name inline

theorem Inline.ends_eq (inline : Inline nodes)
    (listed : holder ∈ inlineHolders) {node : Node} (here : node ∈ nodes) :
    node.ends holder = (holder == "caption" && node.isElement) := by
  cases node with
  | element name attributes children =>
      rw [Node.ends, Node.isElement, Bool.and_true]
      exact startTagCloses_inline listed (inline_iff.mp inline here).1
  | text content => rw [Node.ends, Node.isElement, Bool.and_false]
  | comment content => rw [Node.ends, Node.isElement, Bool.and_false]

theorem Inline.any_ends_iff (inline : Inline nodes)
    (listed : holder ∈ inlineHolders) :
    nodes.any (Node.ends holder) = true ↔
      holder = "caption" ∧ nodes.any Node.isElement = true := by
  rw [List.any_eq_true, List.any_eq_true, ← exists_and_left]
  refine exists_congr fun node => ?_
  rw [and_left_comm]
  refine and_congr_right fun here => ?_
  rw [inline.ends_eq listed here, Bool.and_eq_true, beq_iff_eq]

namespace Fragment

variable {source origin context : String}

/-- Inline markup that can be parsed stays whole between the tags of an element
that holds running text, except in a caption: there its first element ends the
caption, so that the end tag is left without one. -/
theorem parse_wrapped_inline (listed : holder ∈ inlineHolders)
    (reads : textMode origin = .normal)
    (parsed : parse source origin = .ok nodes) (inline : Inline nodes)
    (markup : textMode context = .normal) :
    parse (wrapped holder nodes) context =
      if holder = "caption" ∧ nodes.any Node.isElement then
        .error (.unexpectedEndTag "caption")
      else .ok [.element holder [] nodes] := by
  have wellFormed : WellFormedNodes nodes :=
    (parse_print origin reads).1 source nodes parsed
  have read : parse (wrapped holder nodes) context =
      parseMarkup (wrapped holder nodes).toList := by
    simp only [parse, markup]
  rw [read, (holdsMarkup_of_mem listed).parseMarkup_wrapped wellFormed]
  by_cases ends : nodes.any (Node.ends holder) = true
  · have caption := (inline.any_ends_iff listed).mp ends
    rw [if_pos ends, if_pos caption, caption.1]
  · rw [if_neg ends, if_neg fun caption =>
      ends ((inline.any_ends_iff listed).mpr caption)]

theorem inline_bold (content : String) :
    Inline [.element "b" [] [.text content]] := by
  refine inline_iff.mpr fun listed => ?_
  cases List.mem_singleton.mp listed
  exact ⟨by decide, inline_iff.mpr (by simp)⟩

/-- A link in running text, with a comment after it. -/
def linkNodes : List Node :=
  [.text "see ", .element "a" [("href", "/en")]
    [.element "b" [] [.text "here"]], .comment " soon "]

theorem parse_wrapped_linkNodes :
    "td" ∈ inlineHolders ∧ textMode "p" = .normal ∧
      parse "see <a href=/en><b>here</b></a><!-- soon -->" "p" =
        .ok linkNodes ∧
      Inline linkNodes ∧ textMode "tr" = .normal ∧
      parse (wrapped "td" linkNodes) "tr" =
        .ok [.element "td" [] linkNodes] := by
  have parsed : parse "see <a href=/en><b>here</b></a><!-- soon -->" "p" =
      .ok linkNodes := by
    cbv
  have inline : Inline linkNodes := by
    refine inline_iff.mpr fun listed => ?_
    simp only [linkNodes, List.mem_cons, reduceCtorEq, Node.element.injEq,
      List.not_mem_nil, or_false, false_or] at listed
    obtain ⟨rfl, rfl, rfl⟩ := listed
    exact ⟨by decide, inline_bold "here"⟩
  refine ⟨by decide, by decide, parsed, inline, by decide, ?_⟩
  exact parse_wrapped_inline (by decide) (by decide) parsed inline (by decide)

/-- A bold word as the whole of a text. -/
def boldNodes : List Node := [.element "b" [] [.text "x"]]

theorem parse_boldCaption :
    parse (wrapped "caption" boldNodes) "table" =
      .error (.unexpectedEndTag "caption") ∧
    ¬ ∀ holder ∈ inlineHolders, ∀ source origin context nodes,
      textMode origin = .normal → parse source origin = .ok nodes →
        Inline nodes → textMode context = .normal →
          parse (wrapped holder nodes) context =
            .ok [.element holder [] nodes] := by
  have parsed : parse "<b>x</b>" "caption" = .ok boldNodes := by
    cbv
  have inline : Inline boldNodes := inline_bold "x"
  have falls : parse (wrapped "caption" boldNodes) "table" =
      .error (.unexpectedEndTag "caption") := by
    cbv
  refine ⟨falls, fun law => ?_⟩
  have whole := law "caption" (by decide) _ "caption" "table" boldNodes
    (by decide) parsed inline (by decide)
  rw [falls] at whole
  cases whole

end Fragment

end WorkbookSite.Markup

import WorkbookSite.Proofs.FragmentImage
import WorkbookSite.Proofs.PrintedTokens

/-!
# Parsing printed fragments

Well-formed nodes are exactly the nodes that fragments of markup stand for, and
printing them gives such a fragment.
-/

namespace WorkbookSite.Markup

theorem WellFormedNodes.scan_print {nodes : List Node}
    (wellFormed : WellFormedNodes nodes) :
    Token.scan (Node.printList false nodes) =
      (Node.tokensList nodes, none) := by
  have scanned : Scans (utf8Length (Node.printList false nodes))
      (Node.printList false nodes ++ []) (Node.tokensList nodes) [] :=
    scans_printList
      (fun node listed rest stops =>
        (wellFormed.2 node listed).scans _ rest stops)
      wellFormed.1 nofun
  rw [Scans, List.append_nil] at scanned
  rw [Token.scan, scanned, Token.scanRest, List.append_nil]

theorem WellFormedNodes.parseMarkup_print {nodes : List Node}
    (wellFormed : WellFormedNodes nodes) :
    Fragment.parseMarkup (Node.printList false nodes) = .ok nodes := by
  rw [Fragment.parseMarkup, wellFormed.scan_print]
  simp only
  rw [wellFormed.foldlM_tokens]
  rfl

namespace Fragment

/-- Parsing markup gives well-formed nodes only, and each list of them is given
back from its printed form.  So what was parsed once stays the same however
often it is printed and parsed again. -/
theorem parse_print (context : String) (markup : textMode context = .normal) :
    (∀ source nodes, parse source context = .ok nodes →
      WellFormedNodes nodes) ∧
    (∀ nodes, WellFormedNodes nodes →
      parse (String.ofList (Node.printList false nodes)) context =
        .ok nodes) ∧
    (∀ source nodes, parse source context = .ok nodes →
      parse (String.ofList (Node.printList false nodes)) context =
        .ok nodes) := by
  have parsed : ∀ source, parse source context = parseMarkup source.toList := by
    intro source
    simp only [parse, markup]
  have image : ∀ source nodes, parse source context = .ok nodes →
      WellFormedNodes nodes := by
    intro source nodes found
    rw [parsed] at found
    exact wellFormedNodes_of_parseMarkup found
  have back : ∀ nodes, WellFormedNodes nodes →
      parse (String.ofList (Node.printList false nodes)) context =
        .ok nodes := by
    intro nodes wellFormed
    rw [parsed, String.toList_ofList]
    exact wellFormed.parseMarkup_print
  exact ⟨image, back,
    fun source nodes found => back nodes (image source nodes found)⟩

/-- A quoted paragraph with a line break and a script, and text after it. -/
def mixedNodes : List Node :=
  [.element "p" [("title", "a \"b\" & c")]
    [.text "1 < 2", .element "br" [] [],
      .element "script" [] [.text "a < \"b\""], .comment " - "],
    .text "&"]

theorem wellFormedNodes_mixedNodes : WellFormedNodes mixedNodes := by
  have breakFits : ElementFits "br" [] [] := {
    named := ⟨'b', ['r'], rfl, rfl,
      List.forall_iff_forall_mem.mp (by decide)⟩
    attributesNamed := nofun
    void := fun _ => rfl
    unclosed := nofun
    body := fun _ => .inl rfl }
  have scriptFits : ElementFits "script" [] [.text "a < \"b\""] := {
    named := ⟨'s', "cript".toList, rfl, rfl,
      List.forall_iff_forall_mem.mp (by decide)⟩
    attributesNamed := nofun
    void := fun void => absurd void (by decide)
    unclosed := by simp
    body := fun _ => .inr ⟨_, rfl, fun _ => by decide +kernel⟩ }
  have paragraphFits : ElementFits "p" [("title", "a \"b\" & c")]
      [.text "1 < 2", .element "br" [] [],
        .element "script" [] [.text "a < \"b\""], .comment " - "] := {
    named := ⟨'p', [], rfl, rfl, nofun⟩
    attributesNamed := by
      simp only [List.forall_mem_singleton]
      exact ⟨by decide, List.forall_iff_forall_mem.mp (by decide)⟩
    void := fun void => absurd void (by decide)
    unclosed := by
      intro start attributes inner listed
      simp only [List.mem_cons, Node.element.injEq, reduceCtorEq, false_or,
        List.not_mem_nil, or_false] at listed
      rcases listed with ⟨rfl, -⟩ | ⟨rfl, -⟩ <;> decide
    body := fun mode => absurd (by decide) mode }
  have breakWellFormed : (Node.element "br" [] []).WellFormed :=
    .element breakFits .nil nofun
  have scriptWellFormed :
      (Node.element "script" [] [.text "a < \"b\""]).WellFormed := by
    refine .element scriptFits (.singleton _) ?_
    simp only [List.forall_mem_singleton]
    exact .text (by decide)
  refine ⟨.cons_cons (.inl rfl) (.singleton _), ?_⟩
  simp only [mixedNodes, List.forall_mem_cons]
  refine ⟨.element paragraphFits ?_ ?_, .text (by decide), nofun⟩
  · exact .cons_cons (.inr rfl) (.cons_cons (.inl rfl)
      (.cons_cons (.inl rfl) (.singleton _)))
  · simp only [List.forall_mem_cons]
    exact ⟨.text (by decide), breakWellFormed, scriptWellFormed,
      .comment (by decide +kernel), nofun⟩

theorem parse_print_mixedNodes :
    textMode "p" = .normal ∧ WellFormedNodes mixedNodes ∧
      parse (String.ofList (Node.printList false mixedNodes)) "p" =
        .ok mixedNodes :=
  ⟨by decide, wellFormedNodes_mixedNodes,
    (parse_print "p" (by decide)).2.1 mixedNodes wellFormedNodes_mixedNodes⟩

example : String.ofList (Node.printList false mixedNodes) =
    "<p title=\"a &quot;b&quot; &amp; c\">1 &lt; 2<br/>" ++
      "<script>a < \"b\"</script><!-- - --></p>&amp;" := by
  decide +kernel

end Fragment

end WorkbookSite.Markup

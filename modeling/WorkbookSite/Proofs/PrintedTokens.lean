import WorkbookSite.Proofs.PrintedTags
import WorkbookSite.Proofs.SplitText

/-!
# Tokens of printed nodes

Printed nodes are scanned as their tokens, and scanning goes on with what
follows them.  The one thing that matters there is that no text follows a text:
the two would be scanned as one.
-/

namespace WorkbookSite.Markup

/-- Scanning `source` gives `tokens` first and goes on at `rest`. -/
def Scans (total : Nat) (source : List Char) (tokens : List Token)
    (rest : List Char) : Prop :=
  Token.scanRest total source =
    (tokens ++ (Token.scanRest total rest).1, (Token.scanRest total rest).2)

theorem Scans.refl (total : Nat) (source : List Char) :
    Scans total source [] source := rfl

theorem Scans.trans {total : Nat} {source middle rest : List Char}
    {first second : List Token} (before : Scans total source first middle)
    (after : Scans total middle second rest) :
    Scans total source (first ++ second) rest := by
  unfold Scans at *
  rw [before, after, List.append_assoc]

/-- Markup follows, or nothing. -/
def StartsMarkup (source : List Char) : Prop :=
  ∀ character ∈ source.head?, character = '<'

theorem startsMarkup_cons (rest : List Char) : StartsMarkup ('<' :: rest) := by
  intro character same
  cases same
  rfl

theorem StartsMarkup.takeWhile_eq_nil {source : List Char}
    (markup : StartsMarkup source) : source.takeWhile (· != '<') = [] := by
  cases source with
  | nil => rfl
  | cons character rest => simp [markup character rfl]

theorem StartsMarkup.dropWhile_eq_self {source : List Char}
    (markup : StartsMarkup source) : source.dropWhile (· != '<') = source := by
  cases source with
  | nil => rfl
  | cons character rest => simp [markup character rfl]

theorem less_notMem_escaped (text : List Char) :
    '<' ∉ text.flatMap escapeInText := by
  intro listed
  obtain ⟨character, -, written⟩ := List.mem_flatMap.mp listed
  exact less_notMem_escapeInText character written

theorem escaped_ne_nil {content : String} (written : content ≠ "") :
    content.toList.flatMap escapeInText ≠ [] := by
  cases spelled : content.toList with
  | nil => exact absurd (String.toList_eq_nil_iff.mp spelled) written
  | cons character text =>
      rw [List.flatMap_cons]
      exact List.append_ne_nil_of_left_ne_nil (escapeInText_ne_nil character) _

/-- A run of text is scanned up to the markup that follows it. -/
theorem scans_run {run : List Char} (total : Nat) {rest : List Char}
    (written : run ≠ []) (noMarkup : '<' ∉ run) (markup : StartsMarkup rest) :
    Scans total (run ++ rest)
      [.text (String.ofList (CharacterReference.decode run))] rest := by
  obtain ⟨initial, more, rfl⟩ := List.exists_cons_of_ne_nil written
  obtain ⟨initialOther, moreOther⟩ :=
    not_or.mp (List.mem_cons.not.mp noMarkup)
  have inside : ∀ character ∈ more, (character != '<') = true := by
    intro character listed
    apply bne_iff_ne.mpr
    intro same
    subst same
    exact moreOther listed
  have read : Token.readNext total initial (more ++ rest) =
      .tokens [.text (String.ofList
        (CharacterReference.decode (initial :: more)))] rest := by
    simp only [Token.readNext, if_neg (Ne.symm initialOther),
      List.takeWhile_append_of_pos inside,
      List.dropWhile_append_of_pos inside, markup.takeWhile_eq_nil,
      markup.dropWhile_eq_self, List.append_nil]
  exact Token.scanRest_of_readNext read

theorem scans_text {content : String} (total : Nat) {rest : List Char}
    (written : content ≠ "") (markup : StartsMarkup rest) :
    Scans total (content.toList.flatMap escapeInText ++ rest)
      [.text content] rest := by
  have scans := scans_run total (escaped_ne_nil written)
    (less_notMem_escaped content.toList) markup
  rwa [decode_flatMap decode_escapeInText_append, String.ofList_toList]
    at scans

theorem scans_commentBody {body : List Char} (total : Nat) (rest : List Char)
    (inside : ¬ "-->".toList <:+: body) :
    Scans total ('<' :: '!' :: '-' :: '-' :: (body ++ ("-->".toList ++ rest)))
      [.comment (String.ofList body)] rest := by
  have found := (splitWhere_commentEnd_iff body ("-->".toList ++ rest)).mpr
    ⟨List.prefix_append _ _, inside⟩
  have read : ∀ offset, Token.readComment offset
      (body ++ ("-->".toList ++ rest)) =
        .tokens [.comment (String.ofList body)] rest := by
    intro offset
    simp only [Token.readComment, found]
    rfl
  apply Token.scanRest_of_readNext
  rw [Token.readNext, if_pos rfl, Token.readMarkup]
  exact read _

theorem scans_comment {content : String} (total : Nat) (rest : List Char)
    (inside : ¬ "-->".toList <:+: content.toList) :
    Scans total ((Node.comment content).print false ++ rest)
      [.comment content] rest := by
  have scans := scans_commentBody total rest inside
  rw [String.ofList_toList] at scans
  simpa [Node.print] using scans

/-- A bracket before a letter opens a start tag. -/
theorem readNext_of_isAlpha {initial : Char} (total : Nat) (rest : List Char)
    (letter : initial.isAlpha = true) :
    ∃ offset, Token.readNext total '<' (initial :: rest) =
      Token.readStartTag offset (initial :: rest) := by
  refine ⟨total - utf8Length ('<' :: initial :: rest), ?_⟩
  rw [Token.readNext, if_pos rfl, Token.readMarkup.eq_def]
  split
  · rename_i same
    obtain ⟨rfl, -⟩ := List.cons.inj same
    exact absurd letter (by decide)
  · rename_i same
    obtain ⟨rfl, -⟩ := List.cons.inj same
    exact absurd letter (by decide)
  · contradiction
  · rename_i same
    obtain ⟨rfl, rfl⟩ := List.cons.inj same
    simp [letter]

theorem IsElementName.initial {name : String} (named : IsElementName name)
    (rest : List Char) :
    ∃ initial more, name.toList ++ rest = initial :: more ∧
      initial.isAlpha = true := by
  obtain ⟨initial, more, spelled, lower, -⟩ := named
  exact ⟨initial, more ++ rest, by rw [spelled]; rfl, isAlpha_of_isLower lower⟩

theorem IsElementName.readNext {name : String} (named : IsElementName name)
    (total : Nat) (rest : List Char) :
    ∃ offset, Token.readNext total '<' (name.toList ++ rest) =
      Token.readStartTag offset (name.toList ++ rest) := by
  obtain ⟨initial, more, spelled, letter⟩ := named.initial rest
  rw [spelled]
  exact readNext_of_isAlpha total more letter

theorem IsElementName.scans_endTag {name : String}
    (named : IsElementName name) (total : Nat) (rest : List Char) :
    Scans total ('<' :: '/' :: (name.toList ++ '>' :: rest))
      [.endTag name] rest := by
  apply Token.scanRest_of_readNext
  rw [Token.readNext, if_pos rfl, Token.readMarkup, Token.readEndTag,
    endTag?_print named]

/-- The text of an element as it is printed is given back by its way of reading
text. -/
theorem readBody_print {name content : String}
    {attributes : List (String × String)} {after : List Char}
    (named : IsElementName name) (written : content ≠ "")
    (inside : textMode name = .raw →
      ¬ '<' :: '/' :: name.toList <:+: lowercase content.toList)
    (ends : '<' :: '/' :: name.toList <+: lowercase after) :
    Token.readBody ⟨name, attributes, false⟩
        ((Node.text content).print (textMode name == .raw) ++ after) =
      .tokens [.startTag ⟨name, attributes, false⟩, .text content] after := by
  by_cases raw : textMode name = .raw
  · have found := (splitWhere_endTag_iff _ after named.less_notMem).mpr
      ⟨ends, inside raw⟩
    simp [Token.readBody, Node.print, raw, found, written]
  · have noMark : ¬ '<' :: '/' :: name.toList <:+:
        lowercase (content.toList.flatMap escapeInText) := by
      intro found
      obtain ⟨character, listed, lowered⟩ :=
        List.mem_map.mp (found.subset List.mem_cons_self)
      rw [eq_of_toLower_eq (by decide) lowered] at listed
      exact less_notMem_escaped _ listed
    have found := (splitWhere_endTag_iff _ after named.less_notMem).mpr
      ⟨ends, noMark⟩
    have present := List.isEmpty_eq_false_iff.mpr (escaped_ne_nil written)
    simp [Token.readBody, Node.print, raw, found, present,
      decode_flatMap decode_escapeInText_append, -List.isEmpty_iff]

theorem readBody_nil {name : String} {attributes : List (String × String)}
    {after : List Char} (named : IsElementName name)
    (ends : '<' :: '/' :: name.toList <+: lowercase after) :
    Token.readBody ⟨name, attributes, false⟩ after =
      .tokens [.startTag ⟨name, attributes, false⟩] after := by
  have found := (splitWhere_endTag_iff [] after named.less_notMem).mpr
    ⟨ends, by simp [lowercase]⟩
  rw [List.nil_append] at found
  simp [Token.readBody, found]

theorem print_void {name : String} (attributes : List (String × String))
    (children : List Node) (rest : List Char) (void : isVoid name = true) :
    (Node.element name attributes children).print false ++ rest =
      '<' :: (name.toList ++
        (attributes.flatMap printAttribute ++ (tagClosing true ++ rest))) := by
  simp [Node.print, void, tagClosing]

theorem print_nonvoid {name : String} (attributes : List (String × String))
    (children : List Node) (rest : List Char) (void : isVoid name = false) :
    (Node.element name attributes children).print false ++ rest =
      '<' :: (name.toList ++ (attributes.flatMap printAttribute ++
        (tagClosing false ++
          (Node.printList (textMode name == .raw) children ++
            '<' :: '/' :: (name.toList ++ '>' :: rest))))) := by
  simp [Node.print, void, tagClosing]

theorem ElementFits.readNext_startTag {name : String}
    {attributes : List (String × String)} {children : List Node}
    (fits : ElementFits name attributes children) (total : Nat)
    (selfClosing : Bool) (after : List Char) :
    Token.readNext total '<' (name.toList ++
        (attributes.flatMap printAttribute ++
          (tagClosing selfClosing ++ after))) =
      if selfClosing || isVoid name || textMode name == .normal then
        .tokens [.startTag ⟨name, attributes, selfClosing⟩] after
      else Token.readBody ⟨name, attributes, selfClosing⟩ after := by
  obtain ⟨offset, started⟩ := fits.named.readNext total
    (attributes.flatMap printAttribute ++ (tagClosing selfClosing ++ after))
  rw [started, Token.readStartTag,
    startTag?_print fits.named fits.attributesNamed]

theorem ElementFits.scans_startTag {name : String}
    {attributes : List (String × String)} {children : List Node}
    (fits : ElementFits name attributes children) (total : Nat)
    {selfClosing : Bool} (after : List Char)
    (plain : selfClosing = true ∨ textMode name = .normal) :
    Scans total ('<' :: (name.toList ++ (attributes.flatMap printAttribute ++
        (tagClosing selfClosing ++ after))))
      [.startTag ⟨name, attributes, selfClosing⟩] after := by
  apply Token.scanRest_of_readNext
  rw [fits.readNext_startTag, if_pos]
  rcases plain with rfl | normal
  · simp
  · simp [normal]

theorem ElementFits.scans_body {name : String}
    {attributes : List (String × String)} {children : List Node}
    (fits : ElementFits name attributes children) (total : Nat)
    {after rest : List Char} {tokens : List Token}
    (void : isVoid name = false) (mode : textMode name ≠ .normal)
    (read : Token.readBody ⟨name, attributes, false⟩ after =
      .tokens tokens rest) :
    Scans total ('<' :: (name.toList ++ (attributes.flatMap printAttribute ++
        (tagClosing false ++ after)))) tokens rest := by
  apply Token.scanRest_of_readNext
  rw [fits.readNext_startTag, if_neg (by simp [void, mode]), read]

theorem Node.print_of_isText {node : Node} (raw : Bool)
    (markup : node.isText = false) (rest : List Char) :
    StartsMarkup (node.print raw ++ rest) := by
  cases node with
  | text content => contradiction
  | comment content =>
      simp only [Node.print]
      exact startsMarkup_cons _
  | element name attributes children =>
      simp only [Node.print, List.cons_append]
      exact startsMarkup_cons _

theorem scans_printList {nodes : List Node} {total : Nat}
    (each : ∀ node ∈ nodes, ∀ rest,
      (node.isText = true → StartsMarkup rest) →
        Scans total (node.print false ++ rest) node.tokens rest)
    (separate : SeparateTexts nodes) {rest : List Char}
    (markup : StartsMarkup rest) :
    Scans total (Node.printList false nodes ++ rest) (Node.tokensList nodes)
      rest := by
  induction nodes with
  | nil => exact .refl total rest
  | cons node nodes induction =>
      have later := induction
        (fun other listed => each other (List.mem_cons_of_mem node listed))
        separate.tail
      have stops : node.isText = true →
          StartsMarkup (Node.printList false nodes ++ rest) := by
        intro text
        cases nodes with
        | nil => exact markup
        | cons next nodes =>
            have apart := (List.isChain_cons_cons.mp separate).1
            rw [Node.printList, List.append_assoc]
            exact Node.print_of_isText false
              (apart.resolve_left (by simp [text])) _
      rw [Node.printList, Node.tokensList, List.append_assoc]
      exact (each node List.mem_cons_self _ stops).trans later

theorem ElementFits.scans_inside {name : String}
    {attributes : List (String × String)} {children : List Node}
    (fits : ElementFits name attributes children)
    (void : isVoid name = false) (separate : SeparateTexts children)
    (wellFormed : ∀ child ∈ children, child.WellFormed) (total : Nat)
    (each : ∀ child ∈ children, ∀ rest,
      (child.isText = true → StartsMarkup rest) →
        Scans total (child.print false ++ rest) child.tokens rest)
    (rest : List Char) :
    Scans total ('<' :: (name.toList ++ (attributes.flatMap printAttribute ++
        (tagClosing false ++
          (Node.printList (textMode name == .raw) children ++
            '<' :: '/' :: (name.toList ++ '>' :: rest))))))
      (.startTag ⟨name, attributes, false⟩ :: Node.tokensList children)
      ('<' :: '/' :: (name.toList ++ '>' :: rest)) := by
  have ends : '<' :: '/' :: name.toList <+:
      lowercase ('<' :: '/' :: (name.toList ++ '>' :: rest)) := by
    have written : lowercase ('<' :: '/' :: (name.toList ++ '>' :: rest)) =
        '<' :: '/' :: (name.toList ++ lowercase ('>' :: rest)) := by
      have same := fits.named.lowercase_eq
      unfold lowercase at *
      rw [List.map_cons, List.map_cons, List.map_append, same]
      rfl
    rw [written]
    exact List.prefix_append ('<' :: '/' :: name.toList) _
  by_cases normal : textMode name = .normal
  · have opening : Scans total _
        [.startTag ⟨name, attributes, false⟩] _ :=
      fits.scans_startTag total (Node.printList false children ++
        '<' :: '/' :: (name.toList ++ '>' :: rest)) (.inr normal)
    have contents := scans_printList each separate
      (startsMarkup_cons ('/' :: (name.toList ++ '>' :: rest)))
    have notRaw : (textMode name == .raw) = false := by
      rw [normal]
      rfl
    rw [notRaw]
    exact opening.trans contents
  · rcases fits.body normal with rfl | ⟨content, rfl, inside⟩
    · have opening := fits.scans_body total void normal
        (readBody_nil fits.named ends)
      simpa [Node.printList, Node.tokensList] using opening
    · cases wellFormed _ List.mem_cons_self with
      | text written =>
          have opening := fits.scans_body total void normal
            (readBody_print fits.named written inside ends)
          simpa [Node.printList, Node.tokensList, Node.tokens] using opening

/-- A printed node is scanned as its tokens. -/
theorem Node.WellFormed.scans {node : Node} (wellFormed : node.WellFormed)
    (total : Nat) (rest : List Char)
    (stops : node.isText = true → StartsMarkup rest) :
    Scans total (node.print false ++ rest) node.tokens rest := by
  induction wellFormed generalizing rest with
  | text written => exact scans_text total written (stops rfl)
  | comment inside => exact scans_comment total rest inside
  | @element name attributes children fits separate inside induction =>
      cases void : isVoid name with
      | true =>
          rw [print_void attributes children rest void]
          simpa [Node.tokens, void] using
            fits.scans_startTag total rest (.inl rfl)
      | false =>
          rw [print_nonvoid attributes children rest void]
          have ending := fits.named.scans_endTag total rest
          have start : Scans total _
              (.startTag ⟨name, attributes, false⟩ :: Node.tokensList children)
              ('<' :: '/' :: (name.toList ++ '>' :: rest)) :=
            fits.scans_inside void separate inside total induction _
          simpa [Node.tokens, void] using start.trans ending

end WorkbookSite.Markup

import WorkbookSite.Proofs.Outcomes
import WorkbookSite.Proofs.ScannedTokens
import WorkbookSite.Proofs.TokenAssembly

/-!
# Nodes of fragments

Whatever a fragment is put together from, its nodes are well-formed.  The
invariant is about the open elements: each of them is well-formed so far, and
may stand directly inside the one around it.
-/

namespace WorkbookSite.Markup

theorem WellFormedNodes.nil : WellFormedNodes [] :=
  ⟨List.isChain_nil, List.forall_mem_nil _⟩

theorem WellFormedNodes.append {nodes : List Node} {node : Node}
    (wellFormed : WellFormedNodes nodes) (nodeWellFormed : node.WellFormed)
    (apart : ∀ last ∈ nodes.getLast?,
      last.isText = false ∨ node.isText = false) :
    WellFormedNodes (nodes ++ [node]) := by
  constructor
  · apply List.IsChain.append wellFormed.1 (List.isChain_singleton node)
    intro last isLast _ same
    cases same
    exact apart last isLast
  · intro other listed
    rcases List.mem_append.mp listed with before | added
    · exact wellFormed.2 other before
    · rw [List.mem_singleton.mp added]
      exact nodeWellFormed

theorem WellFormedNodes.left_of_append {first second : List Node}
    (wellFormed : WellFormedNodes (first ++ second)) :
    WellFormedNodes first :=
  ⟨List.IsChain.left_of_append wellFormed.1,
    fun node listed => wellFormed.2 node (List.mem_append_left second listed)⟩

/-- Text that is appended joins the text before it, and stands where that
stood. -/
theorem WellFormedNodes.appendText {nodes : List Node}
    (wellFormed : WellFormedNodes nodes) (content : String) :
    WellFormedNodes (appendText nodes content) := by
  unfold Markup.appendText
  split
  · rename_i previous last
    obtain ⟨before, rfl⟩ := List.getLast?_eq_some_iff.mp last
    rw [List.dropLast_concat]
    obtain ⟨-, -, apart⟩ := List.isChain_append.mp wellFormed.1
    cases wellFormed.2 _ (List.mem_append_right before List.mem_cons_self) with
    | text written =>
        apply wellFormed.left_of_append.append
          (.text (by simp [written]))
        intro other isLast
        exact apart other isLast (.text previous) rfl
  · rename_i last
    split
    · exact wellFormed
    · rename_i written
      apply wellFormed.append (.text written)
      intro other isLast
      cases other with
      | text previous => exact absurd isLast (last previous)
      | comment previous => exact .inl rfl
      | element name attributes children => exact .inl rfl

theorem element_mem_of_mem_appendText {nodes : List Node} {content : String}
    {name : String} {attributes : List (String × String)}
    {children : List Node}
    (listed : Node.element name attributes children ∈
      appendText nodes content) :
    Node.element name attributes children ∈ nodes := by
  unfold appendText at listed
  split at listed
  · simp only [List.mem_append, List.mem_singleton, reduceCtorEq, or_false]
      at listed
    exact List.mem_of_mem_dropLast listed
  · split at listed
    · exact listed
    · simpa using listed

theorem StartTag.Fits.elementFits {tag : StartTag} (fits : tag.Fits) :
    ElementFits tag.name tag.attributes [] where
  named := fits.1
  attributesNamed := fits.2
  void := fun _ => rfl
  unclosed := fun listed => absurd listed List.not_mem_nil
  body := fun _ => .inl rfl

namespace Assembly

/-- The text of the innermost open element is read as markup. -/
def ReadsMarkup (assembly : Assembly) : Prop :=
  ∀ name ∈ (assembly.opened.map (·.name)).head?, textMode name = .normal

theorem ReadsMarkup.modifyNodes {assembly : Assembly}
    (markup : assembly.ReadsMarkup) (change : List Node → List Node) :
    (assembly.modifyNodes change).ReadsMarkup := by
  rw [ReadsMarkup, names_modifyNodes]
  exact markup

/-- The innermost open element is not ended by a start tag of that name. -/
def StaysOpen (assembly : Assembly) (start : String) : Prop :=
  ∀ name ∈ (assembly.opened.map (·.name)).head?,
    startTagCloses name start = false

/-- An assembly whose nodes are well-formed so far. -/
structure Sound (assembly : Assembly) : Prop where
  finished : WellFormedNodes assembly.finished
  opened : ∀ element ∈ assembly.opened,
    element.node.WellFormed ∧ isVoid element.name = false
  nested : (assembly.opened.map (·.name)).IsChain fun inner outer =>
    startTagCloses outer inner = false ∧ textMode outer = .normal

theorem sound_empty : Sound {} where
  finished := .nil
  opened := List.forall_mem_nil _
  nested := List.isChain_nil

variable {assembly : Assembly}

theorem Sound.siblings (sound : assembly.Sound) :
    WellFormedNodes assembly.siblings := by
  obtain ⟨opened, finished⟩ := assembly
  cases opened with
  | nil => exact sound.finished
  | cons innermost outer =>
      cases (sound.opened innermost List.mem_cons_self).1 with
      | element fits separate inside => exact ⟨separate, inside⟩

theorem Sound.staysOpen (sound : assembly.Sound) {start : String}
    {attributes : List (String × String)} {inner : List Node}
    (listed : Node.element start attributes inner ∈ assembly.siblings) :
    assembly.StaysOpen start := by
  obtain ⟨opened, finished⟩ := assembly
  cases opened with
  | nil =>
      intro name first
      cases first
  | cons innermost outer =>
      intro name same
      cases same
      cases (sound.opened innermost List.mem_cons_self).1 with
      | element fits separate inside => exact fits.unclosed listed

/-- Changing the nodes of the innermost open element keeps the assembly sound if
the element may have the nodes. -/
theorem Sound.modifyNodes {change : List Node → List Node}
    (sound : assembly.Sound)
    (wellFormed : WellFormedNodes (change assembly.siblings))
    (stays : ∀ {start attributes inner},
      Node.element start attributes inner ∈ change assembly.siblings →
        assembly.StaysOpen start)
    (body : ∀ name ∈ (assembly.opened.map (·.name)).head?,
      textMode name ≠ .normal → BodyFits name (change assembly.siblings)) :
    (assembly.modifyNodes change).Sound := by
  obtain ⟨opened, finished⟩ := assembly
  cases opened with
  | nil => exact ⟨wellFormed, sound.opened, sound.nested⟩
  | cons innermost outer =>
      refine ⟨sound.finished, ?_, sound.nested⟩
      obtain ⟨innermostWellFormed, nonvoid⟩ :=
        sound.opened innermost List.mem_cons_self
      intro element listed
      rcases List.mem_cons.mp listed with rfl | later
      · refine ⟨?_, nonvoid⟩
        cases innermostWellFormed with
        | element fits separate inside =>
            refine .element ?_ wellFormed.1 wellFormed.2
            exact {
              named := fits.named
              attributesNamed := fits.attributesNamed
              void := fun void => absurd void (by simp [nonvoid])
              unclosed := fun listed => stays listed _ rfl
              body := body _ rfl }
      · exact sound.opened element (List.mem_cons_of_mem innermost later)

theorem Sound.append {node : Node} (sound : assembly.Sound)
    (markup : assembly.ReadsMarkup) (wellFormed : node.WellFormed)
    (apart : node.isText = false)
    (stays : ∀ {start attributes inner},
      node = .element start attributes inner → assembly.StaysOpen start) :
    (assembly.append node).Sound := by
  apply sound.modifyNodes
    (sound.siblings.append wellFormed fun _ _ => .inr apart)
  · intro start attributes inner listed
    rcases List.mem_append.mp listed with before | added
    · exact sound.staysOpen before
    · exact stays (List.mem_singleton.mp added).symm
  · intro name first mode
    exact absurd (markup name first) mode

theorem Sound.appendText (sound : assembly.Sound)
    (markup : assembly.ReadsMarkup) (content : String) :
    (assembly.modifyNodes (Markup.appendText · content)).Sound := by
  apply sound.modifyNodes (sound.siblings.appendText content)
  · intro start attributes inner listed
    exact sound.staysOpen (element_mem_of_mem_appendText listed)
  · intro name first mode
    exact absurd (markup name first) mode

theorem Sound.openElement {tag : StartTag} (sound : assembly.Sound)
    (markup : assembly.ReadsMarkup) (fits : tag.Fits)
    (nonvoid : isVoid tag.name = false) (stays : assembly.StaysOpen tag.name) :
    (assembly.openElement ⟨tag.name, tag.attributes, []⟩).Sound := by
  refine ⟨sound.finished, ?_, ?_⟩
  · intro element listed
    rcases List.mem_cons.mp listed with rfl | later
    · exact ⟨.element fits.elementFits List.isChain_nil
        (List.forall_mem_nil _), nonvoid⟩
    · exact sound.opened element later
  · refine List.isChain_cons.mpr ⟨?_, sound.nested⟩
    intro outer first
    exact ⟨stays outer first, markup outer first⟩

theorem Sound.close (sound : assembly.Sound) :
    assembly.close.Sound ∧ assembly.close.ReadsMarkup := by
  obtain ⟨opened, finished⟩ := assembly
  cases opened with
  | nil =>
      refine ⟨sound, ?_⟩
      intro name first
      cases first
  | cons innermost outer =>
      obtain ⟨nests, nested⟩ := List.isChain_cons.mp sound.nested
      have outside : Sound ⟨outer, finished⟩ :=
        ⟨sound.finished,
          fun element listed =>
            sound.opened element (List.mem_cons_of_mem innermost listed),
          nested⟩
      have markup : ReadsMarkup ⟨outer, finished⟩ :=
        fun name first => (nests name first).2
      have closed := outside.append markup
        (sound.opened innermost List.mem_cons_self).1 rfl (by
          intro start attributes inner same name first
          cases same
          exact (nests name first).1)
      refine ⟨closed, ?_⟩
      exact markup.modifyNodes _

theorem Sound.closeMany (sound : assembly.Sound) (count : Nat) :
    (assembly.closeMany count).Sound ∧
      (assembly.ReadsMarkup → (assembly.closeMany count).ReadsMarkup) := by
  induction count generalizing assembly with
  | zero => exact ⟨sound, id⟩
  | succ count induction =>
      obtain ⟨closed, markup⟩ := sound.close
      obtain ⟨later, stillMarkup⟩ := induction closed
      exact ⟨later, fun _ => stillMarkup markup⟩

theorem names_closeWhile (test : String → Bool) (assembly : Assembly) :
    (assembly.closeWhile test).opened.map (·.name) =
      (assembly.opened.map (·.name)).dropWhile test := by
  have whole := List.takeWhile_append_dropWhile
    (p := fun element : Element => test element.name) (l := assembly.opened)
  rw [closeWhile, names_closeMany, ← List.map_drop, List.dropWhile_map]
  exact congrArg _ ((congrArg (List.drop _) whole.symm).trans List.drop_left)

theorem Sound.closeWhile (sound : assembly.Sound) (test : String → Bool) :
    (assembly.closeWhile test).Sound ∧
      (assembly.ReadsMarkup → (assembly.closeWhile test).ReadsMarkup) :=
  sound.closeMany _

theorem Sound.takeStartTag {tag : StartTag} (sound : assembly.Sound)
    (markup : assembly.ReadsMarkup) (fits : tag.Fits) :
    (assembly.takeStartTag tag).Sound ∧
      (tag.selfClosing = true ∨ isVoid tag.name = true ∨
          textMode tag.name = .normal →
        (assembly.takeStartTag tag).ReadsMarkup) := by
  obtain ⟨closed, stillMarkup⟩ :=
    sound.closeWhile (startTagCloses · tag.name)
  have stays : (assembly.closeWhile (startTagCloses · tag.name)).StaysOpen
      tag.name := by
    intro name first
    rw [names_closeWhile] at first
    have head := List.head?_dropWhile_not (startTagCloses · tag.name)
      (assembly.opened.map (·.name))
    rw [Option.mem_def.mp first] at head
    simpa using head
  unfold Assembly.takeStartTag
  split
  · refine ⟨closed.append (stillMarkup markup)
      (.element fits.elementFits List.isChain_nil (List.forall_mem_nil _))
      rfl ?_, fun _ => (stillMarkup markup).modifyNodes _⟩
    intro start attributes inner same
    cases same
    exact stays
  · rename_i plain
    simp only [Bool.or_eq_true, not_or, Bool.not_eq_true] at plain
    refine ⟨closed.openElement (stillMarkup markup) fits plain.2 stays, ?_⟩
    intro ready
    rcases ready with selfClosing | void | normal
    · simp [plain] at selfClosing
    · simp [plain] at void
    · intro name same
      cases same
      exact normal

theorem Sound.takeEndTag {name : String} {result : Assembly}
    (sound : assembly.Sound)
    (taken : assembly.takeEndTag name = .ok result) :
    result.Sound ∧ result.ReadsMarkup := by
  unfold Assembly.takeEndTag at taken
  split at taken
  · contradiction
  · simp only at taken
    split at taken
    · contradiction
    · split at taken
      · cases taken
        split
        · exact (sound.closeWhile _).1.close
        · exact sound.close
      · contradiction

theorem ReadsMarkup.of_ready {assembly : Assembly} {token : Token}
    {rest : List Token}
    (ready : assembly.ReadsMarkup ∨ StartsEndTag (token :: rest))
    (other : ∀ name, token ≠ .endTag name) : assembly.ReadsMarkup := by
  apply ready.resolve_right
  intro ends
  obtain ⟨name, same⟩ := ends token rfl
  exact other name same

theorem Sound.takeBody {tag : StartTag} {content : String}
    (sound : assembly.Sound) (markup : assembly.ReadsMarkup)
    (fits : tag.Fits) (opens : tag.selfClosing = false)
    (nonvoid : isVoid tag.name = false)
    (inside : BodyFits tag.name [.text content])
    (wellFormed : (Node.text content).WellFormed) :
    ((assembly.takeStartTag tag).modifyNodes
      (Markup.appendText · content)).Sound := by
  obtain ⟨opened, -⟩ := sound.takeStartTag markup fits
  have opening : assembly.takeStartTag tag =
      (assembly.closeWhile (startTagCloses · tag.name)).openElement
        ⟨tag.name, tag.attributes, []⟩ := by
    simp [Assembly.takeStartTag, opens, nonvoid]
  rw [opening] at opened ⊢
  have alone : WellFormedNodes [.text content] := by
    apply WellFormedNodes.nil.append wellFormed
    intro last isLast
    cases isLast
  have added : Markup.appendText [] content = [.text content] := by
    cases wellFormed with
    | text written => exact appendText_eq_append written alone.1
  apply opened.modifyNodes
  · exact added ▸ alone
  · intro start attributes children listed
    exact absurd (element_mem_of_mem_appendText listed) List.not_mem_nil
  · intro name same mode
    cases same
    exact added ▸ inside

end Assembly

/-- The tokens of a source keep an assembly sound. -/
theorem Scanned.sound {tokens : List Token} (scanned : Scanned tokens)
    {assembly result : Assembly} (sound : assembly.Sound)
    (ready : assembly.ReadsMarkup ∨ StartsEndTag tokens)
    (taken : tokens.foldlM Assembly.take assembly = .ok result) :
    result.Sound := by
  induction scanned generalizing assembly with
  | nil =>
      cases taken
      exact sound
  | @text content rest later induction =>
      have markup := Assembly.ReadsMarkup.of_ready ready nofun
      exact induction (sound.appendText markup content)
        (.inl (markup.modifyNodes _)) taken
  | @comment content rest inside later induction =>
      have markup := Assembly.ReadsMarkup.of_ready ready nofun
      exact induction (sound.append markup (.comment inside) rfl nofun)
        (.inl (markup.modifyNodes _)) taken
  | @endTag name rest later induction =>
      rw [List.foldlM_cons] at taken
      obtain ⟨next, closed, after⟩ := Outcome.bind_eq_ok.mp taken
      obtain ⟨nextSound, nextMarkup⟩ := sound.takeEndTag closed
      exact induction nextSound (.inl nextMarkup) after
  | @startTag tag rest fits plain later induction =>
      have markup := Assembly.ReadsMarkup.of_ready ready nofun
      obtain ⟨nextSound, nextMarkup⟩ := sound.takeStartTag markup fits
      exact induction nextSound (.inl (nextMarkup plain)) taken
  | @body tag children rest fits opens nonvoid inside wellFormed ends later
      induction =>
      have markup := Assembly.ReadsMarkup.of_ready ready nofun
      rcases inside with rfl | ⟨content, rfl, unmarked⟩
      · exact induction (sound.takeStartTag markup fits).1 (.inr ends) taken
      · exact induction
          (sound.takeBody markup fits opens nonvoid
            (.inr ⟨content, rfl, unmarked⟩)
            (wellFormed _ List.mem_cons_self))
          (.inr ends) taken

theorem wellFormedNodes_of_parseMarkup {source : List Char}
    {nodes : List Node} (parsed : Fragment.parseMarkup source = .ok nodes) :
    WellFormedNodes nodes := by
  unfold Fragment.parseMarkup at parsed
  obtain ⟨assembly, taken, rest⟩ := Outcome.bind_eq_ok.mp parsed
  have markup : Assembly.ReadsMarkup {} := by
    intro name first
    cases first
  have sound := (Token.scanned_scanRest (utf8Length source) source).sound
    Assembly.sound_empty (.inl markup) taken
  split at rest
  · contradiction
  · unfold Assembly.finish at rest
    simp only at rest
    split at rest
    · cases rest
      exact (sound.closeWhile hasOptionalEnd).1.finished
    · contradiction

end WorkbookSite.Markup

import WorkbookSite.Markup.Fragment
import WorkbookSite.Proofs.WellFormedNodes

/-!
# Assembly of tokens

The tokens of well-formed nodes are put together to the same nodes.  While a
node is taken, the elements around it stay as they are: it ends none of them,
and each of its own elements is ended by its own end tag.
-/

namespace WorkbookSite.Markup

theorem appendText_eq_append {nodes : List Node} {content : String}
    (written : content ≠ "")
    (separate : SeparateTexts (nodes ++ [.text content])) :
    appendText nodes content = nodes ++ [.text content] := by
  unfold appendText
  split
  · rename_i previous last
    obtain ⟨before, rfl⟩ := List.getLast?_eq_some_iff.mp last
    rw [List.append_assoc] at separate
    have apart := List.isChain_cons_cons.mp
      (List.IsChain.right_of_append separate)
    simp [Node.isText] at apart
  · rw [if_neg written]

namespace Assembly

/-- The nodes at the place where the next node goes. -/
def siblings (assembly : Assembly) : List Node :=
  match assembly.opened with
  | [] => assembly.finished
  | innermost :: _ => innermost.children

theorem siblings_modifyNodes (change : List Node → List Node)
    (assembly : Assembly) :
    (assembly.modifyNodes change).siblings = change assembly.siblings := by
  unfold modifyNodes siblings
  cases assembly.opened <;> rfl

theorem modifyNodes_congr {assembly : Assembly}
    {first second : List Node → List Node}
    (same : first assembly.siblings = second assembly.siblings) :
    assembly.modifyNodes first = assembly.modifyNodes second := by
  unfold modifyNodes siblings at *
  split <;> simp_all

theorem modifyNodes_eq_self {assembly : Assembly}
    {change : List Node → List Node}
    (same : change assembly.siblings = assembly.siblings) :
    assembly.modifyNodes change = assembly := by
  obtain ⟨opened, finished⟩ := assembly
  cases opened <;> simp_all [modifyNodes, siblings]

theorem modifyNodes_modifyNodes (assembly : Assembly)
    (first second : List Node → List Node) :
    (assembly.modifyNodes first).modifyNodes second =
      assembly.modifyNodes (second ∘ first) := by
  unfold modifyNodes
  cases assembly.opened <;> rfl

theorem closeWhile_eq_self {test : String → Bool} {assembly : Assembly}
    (stays : ∀ name ∈ (assembly.opened.map (·.name)).head?,
      test name = false) :
    assembly.closeWhile test = assembly := by
  unfold closeWhile
  cases opened : assembly.opened with
  | nil => rfl
  | cons innermost outer =>
      have first := stays innermost.name (by simp [opened])
      simp [first, closeMany]

/-- The nodes can follow at the place where the next node goes. -/
structure Accepts (assembly : Assembly) (nodes : List Node) : Prop where
  separate : SeparateTexts (assembly.siblings ++ nodes)
  unclosed : ∀ {start attributes inner},
    Node.element start attributes inner ∈ nodes →
      ∀ name ∈ (assembly.opened.map (·.name)).head?,
        startTagCloses name start = false

theorem Accepts.head {assembly : Assembly} {node : Node} {nodes : List Node}
    (accepts : assembly.Accepts (node :: nodes)) :
    assembly.Accepts [node] := by
  constructor
  · have separate := accepts.separate
    rw [← List.singleton_append, ← List.append_assoc] at separate
    exact List.IsChain.left_of_append separate
  · intro start attributes inner listed
    rw [List.mem_singleton] at listed
    exact accepts.unclosed (List.mem_cons.mpr (.inl listed))

theorem Accepts.tail {assembly : Assembly} {node : Node} {nodes : List Node}
    (accepts : assembly.Accepts (node :: nodes)) :
    (assembly.append node).Accepts nodes := by
  constructor
  · rw [append, siblings_modifyNodes, List.append_assoc]
    exact accepts.separate
  · intro start attributes inner listed
    rw [append, names_modifyNodes]
    exact accepts.unclosed (List.mem_cons_of_mem node listed)

theorem foldlM_tokensList {nodes : List Node}
    (each : ∀ node ∈ nodes, ∀ assembly : Assembly,
      assembly.Accepts [node] →
        node.tokens.foldlM take assembly = .ok (assembly.append node))
    (assembly : Assembly) (accepts : assembly.Accepts nodes) :
    (Node.tokensList nodes).foldlM take assembly =
      .ok (assembly.modifyNodes (· ++ nodes)) := by
  induction nodes generalizing assembly with
  | nil =>
      rw [modifyNodes_eq_self (List.append_nil _)]
      rfl
  | cons node nodes induction =>
      have here := each node List.mem_cons_self assembly accepts.head
      have later := induction
        (fun other listed => each other (List.mem_cons_of_mem node listed))
        (assembly.append node) accepts.tail
      rw [Node.tokensList, List.foldlM_append, here]
      apply later.trans
      apply congrArg Except.ok
      rw [append, modifyNodes_modifyNodes]
      exact modifyNodes_congr (by simp)

theorem takeEndTag_openElement {assembly after : Assembly} {name : String}
    {attributes : List (String × String)} {change : List Node → List Node}
    (inside : after = (assembly.openElement ⟨name, attributes, []⟩).modifyNodes
      change) (void : isVoid name = false) :
    after.takeEndTag name = .ok after.close := by
  have opened : after.opened =
      ⟨name, attributes, change []⟩ :: assembly.opened := by
    rw [inside]
    rfl
  have stays : after.closeWhile
      (fun other => other != name && hasOptionalEnd other) = after := by
    apply closeWhile_eq_self
    simp [opened]
  simp [takeEndTag, void, opened, stays]

end Assembly

/-- The tokens of a well-formed node add it where the next node goes. -/
theorem Node.WellFormed.foldlM_tokens {node : Node}
    (wellFormed : node.WellFormed) (assembly : Assembly)
    (accepts : assembly.Accepts [node]) :
    node.tokens.foldlM Assembly.take assembly = .ok (assembly.append node) := by
  induction wellFormed generalizing assembly with
  | @text content written =>
      have added : assembly.modifyNodes (appendText · content) =
          assembly.append (.text content) :=
        Assembly.modifyNodes_congr
          (appendText_eq_append written accepts.separate)
      simpa [Node.tokens, Assembly.take] using added
  | comment inside => simp [Node.tokens, Assembly.take]
  | @element name attributes children fits separate inside induction =>
      have stays : assembly.closeWhile (startTagCloses · name) = assembly :=
        Assembly.closeWhile_eq_self
          (accepts.unclosed (List.mem_singleton_self _))
      cases void : isVoid name with
      | true =>
          simp [Node.tokens, Assembly.take, Assembly.takeStartTag, void, stays,
            fits.void void, Element.node]
      | false =>
          have opening : assembly.takeStartTag ⟨name, attributes, false⟩ =
              assembly.openElement ⟨name, attributes, []⟩ := by
            simp [Assembly.takeStartTag, void, stays]
          have insideAccepts :
              (assembly.openElement ⟨name, attributes, []⟩).Accepts
                children := by
            refine ⟨separate, ?_⟩
            intro start others inner listed _ same
            cases same
            exact fits.unclosed listed
          have contents := Assembly.foldlM_tokensList induction _ insideAccepts
          simp only [Node.tokens, void, Bool.false_eq_true, if_false,
            List.foldlM_cons, List.foldlM_append, List.foldlM_nil]
          change (Node.tokensList children).foldlM Assembly.take
            (assembly.takeStartTag ⟨name, attributes, false⟩) >>= _ = _
          rw [opening, contents]
          change Assembly.takeEndTag _ name >>= _ = _
          rw [Assembly.takeEndTag_openElement rfl void]
          rfl

theorem WellFormedNodes.foldlM_tokens {nodes : List Node}
    (wellFormed : WellFormedNodes nodes) :
    (Node.tokensList nodes).foldlM Assembly.take {} =
      .ok { finished := nodes } := by
  refine Assembly.foldlM_tokensList
    (fun node listed => (wellFormed.2 node listed).foldlM_tokens) {} ?_
  refine ⟨wellFormed.1, ?_⟩
  intro start attributes inner listed _ same
  cases same

end WorkbookSite.Markup

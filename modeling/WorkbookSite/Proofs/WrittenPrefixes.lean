import WorkbookSite.Markup.Sink
import WorkbookSite.Proofs.PathOrder

/-!
# Written prefixes

A document is written in many small pieces.  To the sink this is one offer of
all bytes of the printed document: however much room it has, it takes the
first bytes up to there, and it refuses bytes at most once, since nothing is
written after a refusal.
-/

namespace WorkbookSite.Markup

variable {ε : Type}

theorem utf8Bytes_append (first second : List Char) :
    utf8Bytes (first ++ second) = utf8Bytes first ++ utf8Bytes second := by
  have encoded : ∀ text : List Char,
      utf8Bytes text = text.flatMap String.utf8EncodeChar := by
    intro text
    have bytes := Text.utf8Bytes_eq_flatMap (String.ofList text)
    rwa [String.toList_ofList] at bytes
  rw [encoded, encoded, encoded, List.flatMap_append]

theorem Sink.offer_nil (sink : Sink ε) : sink.offer [] = (.ok (), sink) := by
  simp [offer]

/-- What is offered in two parts is offered as a whole; the second part only
counts if the first one fits. -/
theorem Sink.offer_append (sink : Sink ε) (first second : List UInt8) :
    sink.offer (first ++ second) =
      match sink.offer first with
      | (.ok (), next) => next.offer second
      | (.error refusal, next) => (.error refusal, next) := by
  by_cases fits : first.length ≤ sink.room
  · have taken : (first ++ second).take sink.room =
        first.take sink.room ++ second.take (sink.room - first.length) :=
      List.take_append
    have left : sink.room - (first.length + second.length) =
        sink.room - first.length - second.length := Nat.sub_add_eq _ _ _
    have both : first.length + second.length ≤ sink.room ↔
        second.length ≤ sink.room - first.length := by omega
    simp only [offer, fits, if_true, List.length_append, taken, left, both,
      List.append_assoc]
  · have exceeds : ¬ first.length + second.length ≤ sink.room := by omega
    have taken : (first ++ second).take sink.room = first.take sink.room :=
      List.take_append_of_le_length (by omega)
    have left : sink.room - (first.length + second.length) =
        sink.room - first.length := by omega
    simp only [offer, fits, exceeds, if_false, List.length_append, taken, left]

/-- To a sink, the action is one offer of the bytes of a text. -/
def Offers (action : Writing ε Unit) (text : List Char) : Prop :=
  ∀ sink : Sink ε, action sink = sink.offer (utf8Bytes text)

namespace Offers

variable {action next : Writing ε Unit} {text more : List Char}

theorem piece (text : List Char) : Offers (writePiece (ε := ε) text) text :=
  fun _ => rfl

theorem nothing : Offers (pure () : Writing ε Unit) [] := by
  intro sink
  exact (Sink.offer_nil sink).symm

/-- One action after the other offers one text after the other. -/
theorem andThen (first : Offers action text) (second : Offers next more) :
    Offers (action >>= fun _ => next) (text ++ more) := by
  intro sink
  rw [utf8Bytes_append, Sink.offer_append, ← first sink]
  simp only [bind, ExceptT.bind, ExceptT.mk, StateT.bind]
  rcases action sink with ⟨_ | _, after⟩
  · rfl
  · exact second after

theorem attributes (pairs : List (String × String)) :
    Offers (writeAttributes (ε := ε) pairs) (pairs.flatMap printAttribute) := by
  induction pairs with
  | nil => exact nothing
  | cons pair pairs induction =>
      rw [writeAttributes, List.flatMap_cons]
      exact (piece _).andThen induction

theorem startTag (name : String) (pairs : List (String × String))
    (rest : Offers next more) :
    Offers (writePiece ('<' :: name.toList) >>= fun _ =>
        writeAttributes pairs >>= fun _ => next)
      ('<' :: name.toList ++ pairs.flatMap printAttribute ++ more) := by
  rw [List.append_assoc]
  exact (piece _).andThen ((attributes pairs).andThen rest)

mutual

theorem node (raw : Bool) (content : Node) :
    Offers (content.write (ε := ε) raw) (content.print raw) := by
  cases content with
  | text content =>
      rw [Node.write]
      exact piece _
  | comment content =>
      rw [Node.write]
      exact piece _
  | element name pairs children =>
      rw [Node.write, Node.print]
      by_cases void : isVoid name = true
      · rw [if_pos void, if_pos void]
        exact startTag name pairs (piece _)
      · rw [if_neg void, if_neg void]
        have inside := nodes (textMode name == .raw) children
        have ended := piece (ε := ε) ("</".toList ++ name.toList ++ ['>'])
        have written := startTag name pairs
          ((piece ['>']).andThen (inside.andThen ended))
        simpa only [List.singleton_append, List.append_assoc,
          List.cons_append, List.nil_append] using written

theorem nodes (raw : Bool) (contents : List Node) :
    Offers (Node.writeList (ε := ε) raw contents)
      (Node.printList raw contents) := by
  cases contents with
  | nil =>
      rw [Node.writeList, Node.printList]
      exact nothing
  | cons first others =>
      rw [Node.writeList, Node.printList]
      exact (node raw first).andThen (nodes raw others)

end

theorem document (document : Document) :
    Offers (document.write (ε := ε)) document.toHtml.toList := by
  have written := (piece (ε := ε)
    (Document.opening.toList ++ document.doctype.name.toList)).andThen
      ((attributes document.doctype.attributes).andThen
        ((piece ['>']).andThen (node false document.root.node)))
  rw [Document.toHtml, String.toList_ofList]
  simpa only [Document.write, List.append_assoc] using written

end Offers

/-- A sink that runs full while a document is written has taken exactly the
first bytes of the printed document, as many as it had room for.  Writing
succeeds just when all bytes fit; otherwise it fails with the error of the
sink, which was asked to take bytes once too often and then no more. -/
theorem Document.write_outcome (document : Document) (limit : Nat)
    (refusal : ε) :
    let bytes := document.toHtml.toUTF8.data.toList
    document.write { room := limit, refusal := refusal } =
      (if bytes.length ≤ limit then .ok () else .error refusal,
        { room := limit - bytes.length
          refusal := refusal
          taken := bytes.take (min limit bytes.length)
          refusals := if bytes.length ≤ limit then 0 else 1 }) := by
  intro bytes
  have encoded : utf8Bytes document.toHtml.toList = bytes := by
    rw [utf8Bytes, String.ofList_toList]
  rw [Offers.document document, encoded, Sink.offer]
  have taken : bytes.take (min limit bytes.length) = bytes.take limit := by
    rw [← List.take_take, List.take_length]
  by_cases fits : bytes.length ≤ limit
  · simp [fits, List.take_of_length_le fits]
  · simp [fits, taken]

end WorkbookSite.Markup

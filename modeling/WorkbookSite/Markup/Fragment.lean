import WorkbookSite.Markup.Node
import WorkbookSite.Markup.Token

/-!
# Fragments

A fragment is markup that stands inside an element.  Its tokens are put
together one after the other: an assembly holds the elements that are still
open, the innermost first, and the nodes that are finished outside of them.
End tags that may be left out are supplied where the standard does; any other
broken structure is an error.
-/

namespace WorkbookSite.Markup

/-- Adds text after `nodes`; text that follows text becomes one node with it,
and the empty text makes no node. -/
def appendText (nodes : List Node) (text : String) : List Node :=
  match nodes.getLast? with
  | some (.text previous) => nodes.dropLast ++ [.text (previous ++ text)]
  | _ => if text = "" then nodes else nodes ++ [.text text]

/-- A fragment that is put together. -/
structure Assembly where
  /-- The open elements with their children so far, the innermost first. -/
  opened : List Element := []
  /-- The nodes outside of all open elements. -/
  finished : List Node := []

namespace Assembly

/-- Changes the nodes at the place where the next node goes. -/
def modifyNodes (change : List Node → List Node) (assembly : Assembly) :
    Assembly :=
  match assembly.opened with
  | [] => { assembly with finished := change assembly.finished }
  | innermost :: outer =>
      { assembly with
        opened :=
          { innermost with children := change innermost.children } :: outer }

def append (assembly : Assembly) (node : Node) : Assembly :=
  assembly.modifyNodes (· ++ [node])

def openElement (assembly : Assembly) (element : Element) : Assembly :=
  { assembly with opened := element :: assembly.opened }

def close (assembly : Assembly) : Assembly :=
  match assembly.opened with
  | [] => assembly
  | innermost :: outer =>
      { assembly with opened := outer }.append innermost.node

theorem names_modifyNodes (change : List Node → List Node)
    (assembly : Assembly) :
    (assembly.modifyNodes change).opened.map (·.name) =
      assembly.opened.map (·.name) := by
  unfold modifyNodes
  split <;> simp_all

def closeMany : Nat → Assembly → Assembly
  | 0, assembly => assembly
  | count + 1, assembly => closeMany count assembly.close

/-- Closes open elements from the innermost outwards, as long as their names
pass `test`.  Closing an element does not change the names of those around
it. -/
def closeWhile (test : String → Bool) (assembly : Assembly) : Assembly :=
  assembly.closeMany
    (assembly.opened.takeWhile fun element => test element.name).length

theorem names_closeMany (count : Nat) (assembly : Assembly) :
    (assembly.closeMany count).opened.map (·.name) =
      (assembly.opened.map (·.name)).drop count := by
  induction count generalizing assembly with
  | zero => rfl
  | succ count induction =>
      rw [closeMany, induction, close]
      split
      · simp_all
      · simp_all [append, names_modifyNodes]

/-- Takes a start tag: it ends the elements that it closes by itself, and
stands for a whole element if it is void or closes itself. -/
def takeStartTag (assembly : Assembly) (tag : StartTag) : Assembly :=
  let element : Element := ⟨tag.name, tag.attributes, []⟩
  let assembly := assembly.closeWhile (startTagCloses · tag.name)
  if tag.selfClosing || isVoid tag.name then assembly.append element.node
  else assembly.openElement element

/-- Takes an end tag: elements whose own end tag is left out are closed if an
element of that name is open around them. -/
def takeEndTag (assembly : Assembly) (name : String) :
    Except FragmentError Assembly :=
  if isVoid name then .error (.voidEndTag name)
  else
    let assembly :=
      if assembly.opened.any (·.name == name) then
        assembly.closeWhile fun opened => opened != name && hasOptionalEnd opened
      else assembly
    match assembly.opened with
    | [] => .error (.unexpectedEndTag name)
    | innermost :: _ =>
        if innermost.name = name then .ok assembly.close
        else .error (.mismatchedEndTag innermost.name name)

def take (assembly : Assembly) : Token → Except FragmentError Assembly
  | .text content => .ok (assembly.modifyNodes (appendText · content))
  | .comment content => .ok (assembly.append (.comment content))
  | .startTag tag => .ok (assembly.takeStartTag tag)
  | .endTag name => assembly.takeEndTag name

/-- The nodes of a finished fragment.  Only elements whose end tag may be left
out may still be open. -/
def finish (assembly : Assembly) : Except FragmentError (List Node) :=
  let assembly := assembly.closeWhile hasOptionalEnd
  match assembly.opened with
  | [] => .ok assembly.finished
  | innermost :: _ => .error (.unclosed innermost.name)

end Assembly

namespace Fragment

def parseMarkup (source : List Char) : Except FragmentError (List Node) := do
  let (tokens, failure) := Token.scan source
  let assembly ← tokens.foldlM Assembly.take {}
  match failure with
  | some error => .error error
  | none => assembly.finish

/-- The nodes that `source` stands for inside an element named `context`. -/
def parse (source context : String) : Except FragmentError (List Node) :=
  match textMode context with
  | .raw => .ok (appendText [] source)
  | .escapable => .ok (appendText [] (CharacterReference.decodeText source))
  | .normal => parseMarkup source.toList

end Fragment

end WorkbookSite.Markup

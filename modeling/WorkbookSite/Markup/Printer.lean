import WorkbookSite.Markup.Node
import WorkbookSite.Markup.Vocabulary

/-!
# Printed documents

Nodes are printed without any blanks of their own.  Text is escaped, except in
the elements that are read raw; attribute values are quoted and escaped; a void
element has a start tag only.
-/

namespace WorkbookSite.Markup

/-- The way a character of a text is printed. -/
def escapeInText (character : Char) : List Char :=
  if character = '&' then "&amp;".toList
  else if character = '<' then "&lt;".toList
  else if character = '>' then "&gt;".toList
  else if character = '\u00a0' then "&nbsp;".toList
  else [character]

/-- The way a character of an attribute value is printed. -/
def escapeInValue (character : Char) : List Char :=
  if character = '"' then "&quot;".toList else escapeInText character

/-- One attribute, with the blank before it. -/
def printAttribute (pair : String × String) : List Char :=
  ' ' :: pair.1.toList ++ '=' :: '"' ::
    (pair.2.toList.flatMap escapeInValue ++ ['"'])

mutual

/-- The printed form of a node whose parent is read raw or not. -/
def Node.print (raw : Bool) : Node → List Char
  | .text content =>
      if raw then content.toList else content.toList.flatMap escapeInText
  | .comment content => "<!--".toList ++ content.toList ++ "-->".toList
  | .element name attributes children =>
      '<' :: name.toList ++ attributes.flatMap printAttribute ++
        if isVoid name then "/>".toList
        else
          '>' :: Node.printList (textMode name == .raw) children ++
            "</".toList ++ name.toList ++ ['>']

def Node.printList (raw : Bool) : List Node → List Char
  | [] => []
  | node :: nodes => node.print raw ++ Node.printList raw nodes

end

namespace Element

def toHtml (element : Element) : String :=
  String.ofList (element.node.print false)

end Element

namespace Document

def opening : String := "<!DOCTYPE "

def toHtml (document : Document) : String :=
  String.ofList
    (opening.toList ++ document.doctype.name.toList ++
      document.doctype.attributes.flatMap printAttribute ++ ['>'] ++
      document.root.node.print false)

end Document

end WorkbookSite.Markup

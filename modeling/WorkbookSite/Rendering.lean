import WorkbookSite.Markup.Fragment
import WorkbookSite.Markup.Printer
import WorkbookSite.Page

/-!
# Rendering

A page is rendered in one of its locales: each element of the outline becomes
an element of the document, its value is read as a fragment and comes before
its child elements, and its attribute entries become attributes.  The first
row that cannot be rendered is reported.
-/

namespace WorkbookSite

open Markup (Node Element Document FragmentError)

/-- Where the locale of a rendered page is written. -/
inductive LangPlacement where
  /-- As an attribute of the doctype. -/
  | doctype
  /-- As an attribute of the root element, unless it has one. -/
  | root
deriving DecidableEq, Repr, Inhabited

inductive RenderError where
  | unknownElement (row : Nat) (key : String)
  | fragment (row : Nat) (locale value : String) (cause : FragmentError)
  | voidContent (row : Nat) (key : String)
  | unknownLocale (page locale : String)
deriving DecidableEq, Repr

namespace RenderError

def message : RenderError → String
  | .unknownElement row key =>
      String.join ["row ", toString row, ": unknown HTML element type ",
        Text.quoted key]
  | .fragment row locale value cause =>
      String.join ["row ", toString row, ", locale ", locale, ": node body ",
        Text.quoted value, " is invalid HTML: ", cause.message]
  | .voidContent row key =>
      String.join ["row ", toString row, ": void element ", Text.quoted key,
        " cannot have content or child elements"]
  | .unknownLocale page locale =>
      String.join ["page ", Text.quoted page, " has no locale ",
        Text.quoted locale]

end RenderError

namespace Entry

/-- The nodes that the value of an element stands for; none if it is empty. -/
def renderValue (entry : Entry) (locale : String) (order : List String) :
    Except RenderError (List Node) :=
  let value := entry.bestValue locale order
  if value = "" then .ok []
  else (Markup.Fragment.parse value entry.key).mapError
    (.fragment entry.row locale value)

end Entry

namespace Outline

def renderAttributes (locale : String) (order : List String)
    (children : List Outline) : List (String × String) :=
  (children.filter (·.entry.isAttribute)).map fun child =>
    (child.entry.key, child.entry.bestValue locale order)

mutual

def render (locale : String) (order : List String) :
    Outline → Except RenderError Element
  | .node entry children =>
      if !Markup.isElement entry.key then
        .error (.unknownElement entry.row entry.key)
      else if Markup.isVoid entry.key &&
          (entry.bestValue locale order != "" ||
            children.any (!·.entry.isAttribute)) then
        .error (.voidContent entry.row entry.key)
      else do
        let content ← entry.renderValue locale order
        let nested ← renderChildren locale order children
        .ok
          { name := entry.key
            attributes := renderAttributes locale order children
            children := content ++ nested }

/-- Renders the elements among the children of an element, in row order. -/
def renderChildren (locale : String) (order : List String) :
    List Outline → Except RenderError (List Node)
  | [] => .ok []
  | child :: children =>
      if child.entry.isAttribute then renderChildren locale order children
      else do
        let element ← child.render locale order
        let elements ← renderChildren locale order children
        .ok (element.node :: elements)

end

end Outline

namespace Page

def document (placement : LangPlacement) (locale : String) (root : Element) :
    Document :=
  match placement with
  | .doctype => { doctype := { attributes := [("lang", locale)] }, root := root }
  | .root =>
      if (root.attribute? "lang").isSome then { root := root }
      else
        { root :=
            { root with attributes := ("lang", locale) :: root.attributes } }

def render (page : Page) (locale : String) (placement : LangPlacement) :
    Except RenderError Document :=
  if page.hasLocale locale then
    (page.root.render locale page.locales).map (document placement locale)
  else .error (.unknownLocale page.name locale)

end Page

end WorkbookSite

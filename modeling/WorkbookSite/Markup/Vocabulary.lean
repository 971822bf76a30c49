/-!
# Vocabulary

The names of HTML elements and what the standard says about them: which are
void, how their text is read, which end tags may be left out, and which start
tags end an open element.  Names are compared exactly, in lowercase.
-/

namespace WorkbookSite.Markup

def elementNames : List String :=
  ["a", "abbr", "address", "area", "article", "aside", "audio", "b", "base",
   "bdi", "bdo", "blockquote", "body", "br", "button", "canvas", "caption",
   "cite", "code", "col", "colgroup", "data", "datalist", "dd", "del",
   "details", "dfn", "dialog", "div", "dl", "dt", "em", "embed", "fieldset",
   "figcaption", "figure", "footer", "form", "h1", "h2", "h3", "h4", "h5",
   "h6", "head", "header", "hgroup", "hr", "html", "i", "iframe", "img",
   "input", "ins", "kbd", "label", "legend", "li", "link", "main", "map",
   "mark", "math", "menu", "meta", "meter", "nav", "noscript", "object", "ol",
   "optgroup", "option", "output", "p", "picture", "pre", "progress", "q",
   "rp", "rt", "ruby", "s", "samp", "script", "search", "section", "select",
   "slot", "small", "source", "span", "strong", "style", "sub", "summary",
   "sup", "svg", "table", "tbody", "td", "template", "textarea", "tfoot",
   "th", "thead", "time", "title", "tr", "track", "u", "ul", "var", "video",
   "wbr"]

/-- The elements that have neither content nor an end tag. -/
def voidNames : List String :=
  ["area", "base", "br", "col", "embed", "hr", "img", "input", "link", "meta",
   "source", "track", "wbr"]

/-- The elements whose start tag ends an open paragraph. -/
def paragraphEnders : List String :=
  ["address", "article", "aside", "blockquote", "details", "div", "dl",
   "fieldset", "figcaption", "figure", "footer", "form", "h1", "h2", "h3",
   "h4", "h5", "h6", "header", "hgroup", "hr", "main", "menu", "nav", "ol",
   "p", "pre", "section", "table", "ul"]

/-- The elements whose end tag may be left out. -/
def optionalEndNames : List String :=
  ["li", "dt", "dd", "p", "option", "optgroup", "rt", "rp", "tr", "td", "th",
   "thead", "tbody", "tfoot", "colgroup", "caption"]

/-- How the text inside an element is read. -/
inductive TextMode where
  /-- Markup and character references. -/
  | normal
  /-- Character references only. -/
  | escapable
  /-- Neither. -/
  | raw
deriving DecidableEq, Repr

def isElement (name : String) : Bool := elementNames.contains name

def isVoid (name : String) : Bool := voidNames.contains name

def textMode (name : String) : TextMode :=
  if name = "script" ∨ name = "style" then .raw
  else if name = "title" ∨ name = "textarea" then .escapable
  else .normal

def hasOptionalEnd (name : String) : Bool := optionalEndNames.contains name

/-- The start tags that end an open element named `opened`. -/
def startTagCloses (opened start : String) : Bool :=
  match opened with
  | "p" => paragraphEnders.contains start
  | "li" => start == "li"
  | "dt" | "dd" => ["dt", "dd"].contains start
  | "option" => ["option", "optgroup"].contains start
  | "optgroup" => start == "optgroup"
  | "rt" | "rp" => ["rt", "rp"].contains start
  | "td" | "th" => ["td", "th", "tr", "tbody", "tfoot"].contains start
  | "tr" => ["tr", "tbody", "tfoot"].contains start
  | "thead" | "tbody" => ["tbody", "tfoot"].contains start
  | "colgroup" | "caption" => start != "col"
  | _ => false

end WorkbookSite.Markup

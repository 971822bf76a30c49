/-!
# Document tree

A document is a doctype and one root element.  An element has attributes in the
order they were given and child nodes; a node is an element, a text or a
comment.  `Element` is the part of an element node that can be built up step by
step.
-/

namespace WorkbookSite.Markup

/-- A node inside an element. -/
inductive Node where
  | element (name : String) (attributes : List (String × String))
      (children : List Node)
  | text (content : String)
  | comment (content : String)
deriving Repr, Inhabited

mutual

/-- Whether two nodes are the same. -/
def Node.decEq : (first second : Node) → Decidable (first = second)
  | .element name attributes children,
      .element name' attributes' children' =>
      have := Node.decEqList children children'
      decidable_of_iff
        (name = name' ∧ attributes = attributes' ∧ children = children')
        (by simp)
  | .text content, .text content' =>
      decidable_of_iff (content = content') (by simp)
  | .comment content, .comment content' =>
      decidable_of_iff (content = content') (by simp)
  | .element _ _ _, .text _ | .element _ _ _, .comment _
  | .text _, .element _ _ _ | .text _, .comment _
  | .comment _, .element _ _ _ | .comment _, .text _ => .isFalse nofun

def Node.decEqList : (first second : List Node) → Decidable (first = second)
  | [], [] => .isTrue rfl
  | node :: nodes, node' :: nodes' =>
      have := Node.decEq node node'
      have := Node.decEqList nodes nodes'
      decidable_of_iff (node = node' ∧ nodes = nodes') (by simp)
  | [], _ :: _ | _ :: _, [] => .isFalse nofun

end

instance : DecidableEq Node := Node.decEq

structure Element where
  name : String
  attributes : List (String × String) := []
  children : List Node := []
deriving DecidableEq, Repr, Inhabited

mutual

/-- The text of a node without its tags and comments. -/
def Node.plainText : Node → List Char
  | .element _ _ children => Node.plainTextList children
  | .text content => content.toList
  | .comment _ => []

def Node.plainTextList : List Node → List Char
  | [] => []
  | node :: nodes => node.plainText ++ Node.plainTextList nodes

end

namespace Element

def node (element : Element) : Node :=
  .element element.name element.attributes element.children

/-- Adds an attribute, also if there is one of that name. -/
def pushAttribute (element : Element) (name value : String) : Element :=
  { element with attributes := element.attributes ++ [(name, value)] }

/-- The value of the first attribute of that name. -/
def attribute? (element : Element) (name : String) : Option String :=
  element.attributes.lookup name

def push (element : Element) (child : Node) : Element :=
  { element with children := element.children ++ [child] }

/-- The text of all descendants. -/
def text (element : Element) : String :=
  String.ofList (Node.plainTextList element.children)

end Element

/-- A document type declaration, with attributes after the name. -/
structure Doctype where
  name : String := "html"
  attributes : List (String × String) := []
deriving DecidableEq, Repr, Inhabited

structure Document where
  doctype : Doctype := {}
  root : Element
deriving DecidableEq, Repr, Inhabited

end WorkbookSite.Markup

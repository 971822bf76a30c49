import WorkbookSite.Text.Uppercase

/-!
# Outlines

Each row of a sheet below the path row is an entry: an element or an attribute
with one value per locale, nested by the column of its key.  An outline is the
tree of such entries.  `Outline.ofEntries` nests a list of entries by depth: it
reads them one after the other and keeps the outlines that may still get
children on a stack.  `Outline.walk` visits an outline with a list of pending
subtrees, and `Outline.preorder` is the same order by recursion on the tree.
-/

namespace WorkbookSite

/-- One row of an outline. -/
structure Entry where
  /-- Name of the element or attribute. -/
  key : String
  /-- Whether the entry is an attribute of its parent, not an element. -/
  isAttribute : Bool
  /-- The values that are written, by locale, in the order of the locales. -/
  values : List (String × String)
  /-- Number of the row, counted from one; zero for the root. -/
  row : Nat
  /-- Column of the key, counted from one; zero for the root. -/
  depth : Nat
deriving DecidableEq, Repr, Inhabited

namespace Entry

/-- The entry above all rows of a sheet. -/
def root : Entry := ⟨"html", false, [], 0, 0⟩

/-- Keys that start with an uppercase letter are reserved for macros. -/
def isMacroKey (key : String) : Bool :=
  key.toList.head?.any Text.isUppercase

def isMacro (entry : Entry) : Bool := isMacroKey entry.key

/-- The value for the preferred locale, or else for the first locale of the
fallback order that has one, or else the empty text. -/
def bestValue (entry : Entry) (preferred : String) (order : List String) :
    String :=
  match entry.values.lookup preferred with
  | some value => value
  | none => (order.findSome? (entry.values.lookup ·)).getD ""

end Entry

/-- A tree of entries. -/
inductive Outline where
  | node (entry : Entry) (children : List Outline)
deriving Repr, Inhabited

namespace Outline

def entry : Outline → Entry
  | .node entry _ => entry

def children : Outline → List Outline
  | .node _ children => children

def attributes (outline : Outline) : List Outline :=
  outline.children.filter (·.entry.isAttribute)

/-- The children that are elements, in row order. -/
def elements (outline : Outline) : List Outline :=
  outline.children.filter (!·.entry.isAttribute)

mutual

def size : Outline → Nat
  | .node _ children => 1 + sizeList children

def sizeList : List Outline → Nat
  | [] => 0
  | outline :: outlines => outline.size + sizeList outlines

end

theorem sizeList_append (first second : List Outline) :
    sizeList (first ++ second) = sizeList first + sizeList second := by
  induction first with
  | nil => simp [sizeList]
  | cons outline outlines induction => simp [sizeList, induction]; omega

mutual

/-- The outline and all its descendants, each before its children. -/
def preorder : Outline → List Outline
  | .node entry children => .node entry children :: preorderList children

/-- The descendants of a list of outlines, one outline after the other. -/
def preorderList : List Outline → List Outline
  | [] => []
  | outline :: outlines => outline.preorder ++ preorderList outlines

end

/-- Visits the pending outlines: the first one is visited, and its children
become pending in front of the others. -/
def walkPending : List Outline → List Outline
  | [] => []
  | .node entry children :: pending =>
      .node entry children :: walkPending (children ++ pending)
termination_by pending => sizeList pending
decreasing_by simp [sizeList_append, sizeList, size]

/-- The outline and all its descendants, in the order of the rows. -/
def walk (outline : Outline) : List Outline := walkPending [outline]

/-- Makes `child` the last child of `parent`. -/
def adopt (parent child : Outline) : Outline :=
  .node parent.entry (parent.children ++ [child])

/-- The outlines that are open while entries are read, and so may still get
children: the innermost one, and the ones around it from the inside out. -/
structure Opened where
  top : Outline
  around : List Outline
deriving Repr

namespace Opened

/-- Only the root is open before the first entry. -/
def start : Opened := ⟨.node .root [], []⟩

/-- Closes the open outlines at `depth` or deeper, the innermost first; each
becomes the last child of the next one.  The outermost is never closed. -/
def closeFrom (depth : Nat) (top : Outline) : List Outline → Opened
  | [] => ⟨top, []⟩
  | parent :: around =>
      if depth ≤ top.entry.depth then
        closeFrom depth (parent.adopt top) around
      else ⟨top, parent :: around⟩

def close (opened : Opened) (depth : Nat) : Opened :=
  closeFrom depth opened.top opened.around

/-- Opens an outline inside of what is still open at its depth. -/
def read (opened : Opened) (entry : Entry) : Opened :=
  let around := opened.close entry.depth
  ⟨.node entry [], around.top :: around.around⟩

end Opened

/-- The whole outline of a list of entries, below the root entry: an entry
stands under the innermost outline that is open at its depth, and in the end
all are closed. -/
def ofEntries (entries : List Entry) : Outline :=
  ((entries.foldl Opened.read .start).close 0).top

end Outline

end WorkbookSite

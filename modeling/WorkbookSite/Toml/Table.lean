import WorkbookSite.Toml.Scalar

/-!
# Tables of a TOML document

A document is built from headers and pairs in the order they are written.  How
a table came about decides what may still be added to it: a table may be given
by one header only, dotted keys extend only tables that dotted keys made, and a
table between braces is complete.
-/

namespace WorkbookSite.Toml

/-- How a table came about. -/
inductive TableKind where
  /-- The document itself, or by a header of its own. -/
  | header
  /-- On the way to the table of another header. -/
  | implied
  /-- By dotted keys. -/
  | dotted
  /-- Between braces. -/
  | inline
deriving DecidableEq, Repr

inductive Value where
  | text (content : String)
  | scalar (scalar : Scalar)
  | array (items : List Value)
  /-- Tables that are given one by one, by headers between double brackets. -/
  | tables (items : List Value)
  | table (kind : TableKind) (entries : List (String × Value))
deriving Repr, Inhabited

/-- The keys of a table with their values, in the order they are given. -/
abbrev Entries := List (String × Value)

namespace Entries

/-- Gives a key that is there a new value. -/
def replace (entries : Entries) (key : String) (value : Value) : Entries :=
  entries.map fun entry => if entry.1 == key then (key, value) else entry

/-- Edits the table that a path of keys leads to; missing tables on the way are
made as `made`, and tables of a kind that `passes` refuses end the way.  In an
array of tables, the way goes through the last one. -/
def edit (made : TableKind) (passes : TableKind → Bool)
    (change : TableKind → Entries → Option Entries) :
    List String → TableKind → Entries → Option Entries
  | [], kind, entries => change kind entries
  | key :: keys, _, entries =>
      match entries.lookup key with
      | none => do
          let inner ← edit made passes change keys made []
          some (entries ++ [(key, .table made inner)])
      | some (.table kind inner) =>
          if kind != .inline && passes kind then do
            let inner ← edit made passes change keys kind inner
            some (replace entries key (.table kind inner))
          else none
      | some (.tables items) =>
          match items.getLast? with
          | some (.table kind inner) => do
              let inner ← edit made passes change keys kind inner
              some (replace entries key
                (.tables (items.dropLast ++ [.table kind inner])))
          | _ => none
      | some _ => none

def add (key : String) (value : Value) (entries : Entries) : Option Entries :=
  if (entries.lookup key).isSome then none
  else some (entries ++ [(key, value)])

/-- Adds the pair of a dotted key.  Only tables that were not given by a header
of their own may be entered, and the last one has to be made by dotted keys. -/
def addDotted (path : List String) (key : String) (value : Value)
    (entries : Entries) : Option Entries :=
  if path.isEmpty then add key value entries
  else
    edit .dotted (fun kind => kind == .implied || kind == .dotted)
      (fun kind inner => if kind = .dotted then add key value inner else none)
      path .header entries

/-- Starts the table of a header. -/
def openTable (path : List String) (key : String) (entries : Entries) :
    Option Entries :=
  edit .implied (fun _ => true)
    (fun _ inner =>
      match inner.lookup key with
      | none => some (inner ++ [(key, .table .header [])])
      | some (.table .implied given) =>
          some (replace inner key (.table .header given))
      | some _ => none)
    path .header entries

/-- Starts the next table of a header between double brackets. -/
def openElement (path : List String) (key : String) (entries : Entries) :
    Option Entries :=
  edit .implied (fun _ => true)
    (fun _ inner =>
      match inner.lookup key with
      | none => some (inner ++ [(key, .tables [.table .header []])])
      | some (.tables items) =>
          some (replace inner key (.tables (items ++ [.table .header []])))
      | some _ => none)
    path .header entries

/-- Adds a pair to the table of the last header. -/
def addPair (header : List String) (path : List String) (key : String)
    (value : Value) (entries : Entries) : Option Entries :=
  edit .implied (fun _ => true)
    (fun _ inner => addDotted path key value inner) header .header entries

end Entries

end WorkbookSite.Toml

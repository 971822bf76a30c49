/-!
# Paths

A path is kept as it was written.  Its components are what it says: repeated
slashes, a slash at the end, and a `.` that is not at the start say nothing.
Its steps are what is done when it is followed: there, every `.` counts.
-/

namespace WorkbookSite

/-- A path as it was written. -/
structure Path where
  text : String
deriving DecidableEq, Repr, Inhabited

/-- One part of a path. -/
inductive Component where
  | root
  | current
  | parent
  | name (name : String)
deriving DecidableEq, Repr

namespace Path

def splitSlashes : List Char → List (List Char)
  | [] => [[]]
  | character :: rest =>
      if character = '/' then [] :: splitSlashes rest
      else
        match splitSlashes rest with
        | [] => [[character]]
        | part :: parts => (character :: part) :: parts

/-- The step that a part between slashes stands for. -/
def step? (part : List Char) : Option Component :=
  if part = [] then none
  else if part = ['.'] then some .current
  else if part = ['.', '.'] then some .parent
  else some (.name (String.ofList part))

def isAbsolute (path : Path) : Bool := path.text.toList.head? == some '/'

def isEmpty (path : Path) : Bool := path.text == ""

def endsInSlash (path : Path) : Bool := path.text.toList.getLast? == some '/'

/-- What is done, step by step, when the path is followed. -/
def steps (path : Path) : List Component :=
  let steps := (splitSlashes path.text.toList).filterMap step?
  if path.isAbsolute then .root :: steps else steps

/-- The steps that say something: a `.` does so only at the start. -/
def components (path : Path) : List Component :=
  match path.steps with
  | [] => []
  | first :: others => first :: others.filter (· != .current)

/-- `path` below the directory `base`; an absolute path stands for itself. -/
def join (base path : Path) : Path :=
  if path.isAbsolute then path
  else if base.isEmpty || base.endsInSlash then ⟨base.text ++ path.text⟩
  else ⟨base.text ++ "/" ++ path.text⟩

def ofNames (names : List String) : Path := ⟨"/".intercalate names⟩

def fileName? (path : Path) : Option String :=
  match path.components.getLast? with
  | some (.name name) => some name
  | _ => none

/-- The part of the file name after its last dot.  A dot at the start of the
name begins no extension. -/
def extension? (path : Path) : Option String := do
  let name ← path.fileName?
  let reversed := name.toList.reverse
  match reversed.dropWhile (· != '.') with
  | _ :: _ :: _ =>
      some (String.ofList (reversed.takeWhile (· != '.')).reverse)
  | _ => none

/-- The names that lead from `base` to `path`, when the components of `path`
are those of `base` followed by names only. -/
def namesBelow? (path base : Path) : Option (List String) := do
  let below ← base.components.isPrefixOf? path.components
  below.mapM fun
    | .name name => some name
    | _ => none

/-- The names of a path that stays inside the directory it is taken from.  A
leading slash says nothing; a path without names names no file. -/
def innerNames? (path : Path) : Option (List String) :=
  if .parent ∈ path.components then none
  else
    let names := path.components.filterMap fun
      | .name name => some name
      | _ => none
    if names.isEmpty then none else some names

end Path

end WorkbookSite

import WorkbookSite.Files.Path
import WorkbookSite.Workbook

/-!
# File systems

A file system maps locations to directories and files.  A location is the list
of names that lead to it from the root.  The items are kept in the order of
their locations, which is the order of a walk that visits a directory before
its contents and the contents by name.  There are no links, and nothing is
protected against writing.

A name can be too long.  A path as a whole is never refused: that systems take
at most 4095 bytes, and no NUL character, is left out, so that with such a path
an action can succeed here and fail there.
-/

namespace WorkbookSite

/-- The names that lead from the root to a place. -/
abbrev Location := List String

inductive Content where
  | text (content : String)
  | workbook (workbook : Workbook)
  /-- Neither text nor a workbook. -/
  | bytes (content : List UInt8)
deriving DecidableEq, Repr, Inhabited

inductive Item where
  | directory
  | file (content : Content)
deriving DecidableEq, Repr, Inhabited

/-- Why a path cannot be followed or a place cannot be written. -/
inductive Refusal where
  /-- Something on the way does not exist. -/
  | missing
  /-- Something on the way is of the wrong kind, or a name is too long. -/
  | obstructed
deriving DecidableEq, Repr

/-- Whether `first` comes before `second` in a walk.  Names are ordered by
their characters, which is also the order of their UTF-8 bytes. -/
def Location.comesBefore : Location → Location → Bool
  | _, [] => false
  | [], _ :: _ => true
  | first :: firsts, second :: seconds =>
      decide (first < second) ||
        (first == second && Location.comesBefore firsts seconds)

/-- A file system and the directory that relative paths start from. -/
structure FileSystem where
  /-- The items below the root, in the order of a walk. -/
  items : List (Location × Item) := []
  workingDirectory : Location := []
deriving DecidableEq, Repr, Inhabited

namespace FileSystem

/-- What there is at a location.  The root is always a directory. -/
def item? (files : FileSystem) (location : Location) : Option Item :=
  if location = [] then some .directory else files.items.lookup location

def isDirectoryAt (files : FileSystem) (location : Location) : Bool :=
  files.item? location == some .directory

/-- Puts an item at a location, in the place of what was there. -/
def put (files : FileSystem) (location : Location) (item : Item) :
    FileSystem :=
  let others := files.items.filter (·.1 != location)
  { files with
    items :=
      others.takeWhile (Location.comesBefore ·.1 location) ++
        (location, item) ::
          others.dropWhile (Location.comesBefore ·.1 location) }

/-- Removes all items below a location, but not the item at it. -/
def removeBelow (files : FileSystem) (location : Location) : FileSystem :=
  { files with
    items := files.items.filter fun (place, _) =>
      place == location || !location.isPrefixOf place }

/-- Removes the item at a location, and all items below it. -/
def removeAt (files : FileSystem) (location : Location) : FileSystem :=
  { files with
    items := files.items.filter fun (place, _) => !location.isPrefixOf place }

/-- The items below a location in the order of a walk, with the names that lead
to them from there. -/
def below (files : FileSystem) (location : Location) :
    List (List String × Item) :=
  files.items.filterMap fun (place, item) =>
    match location.isPrefixOf? place with
    | some (name :: names) => some (name :: names, item)
    | _ => none

def children (files : FileSystem) (location : Location) : List String :=
  (files.below location).filterMap fun
    | ([name], _) => some name
    | _ => none

def maxNameBytes : Nat := 255

def isNameTooLong (name : String) : Bool := maxNameBytes < name.utf8ByteSize

/-- Takes one step from `here`, which has to be a directory.  Only the step to
the root can be taken from anywhere. -/
def follow (files : FileSystem) (here : Location) (step : Component) :
    Except Refusal Location :=
  match step, files.item? here with
  | .root, _ => .ok []
  | _, none => .error .missing
  | _, some (.file _) => .error .obstructed
  | .current, some .directory => .ok here
  | .parent, some .directory => .ok here.dropLast
  | .name name, some .directory =>
      if isNameTooLong name then .error .obstructed
      else if (files.item? (here ++ [name])).isSome then
        .ok (here ++ [name])
      else .error .missing

/-- The location that a path leads to.  The empty path leads nowhere, and a
slash at the end asks for a directory. -/
def locate (files : FileSystem) (path : Path) : Except Refusal Location := do
  if path.isEmpty then .error .missing
  let location ← path.steps.foldlM files.follow files.workingDirectory
  if path.endsInSlash then files.follow location .current else .ok location

def find? (files : FileSystem) (path : Path) : Option Item :=
  match files.locate path with
  | .ok location => files.item? location
  | .error _ => none

def pathExists (files : FileSystem) (path : Path) : Bool :=
  (files.find? path).isSome

def isDirectory (files : FileSystem) (path : Path) : Bool :=
  files.find? path == some .directory

end FileSystem

/-- An action on a file system that keeps what it changed also when it
fails. -/
abbrev FileAction (ε α : Type) := ExceptT ε (StateM FileSystem) α

namespace FileAction

/-- Names the cause of a refusal. -/
def orElseFail {ε α : Type} (action : FileAction Refusal α) (error : ε) :
    FileAction ε α :=
  ExceptT.adapt (fun _ => error) action

end FileAction

namespace FileSystem

/-- Follows components from `here`, which is a directory, and makes the
directories that are missing on the way. -/
def makeAlong : Location → List Component → FileAction Refusal Unit
  | _, [] => pure ()
  | _, .root :: rest => makeAlong [] rest
  | here, .current :: rest => makeAlong here rest
  | here, .parent :: rest => makeAlong here.dropLast rest
  | here, .name name :: rest => do
      let files ← get
      match files.item? (here ++ [name]) with
      | some .directory => makeAlong (here ++ [name]) rest
      | some (.file _) => throw .obstructed
      | none =>
          if isNameTooLong name then throw .obstructed
          set (files.put (here ++ [name]) .directory)
          makeAlong (here ++ [name]) rest

/-- Makes a directory and the directories above it, where they are missing.  A
directory whose path ends in a `.` has to exist already. -/
def makeDirectories (path : Path) : FileAction Refusal Unit := do
  let files ← get
  match path.steps.getLast?, path.components.getLast? with
  | some .current, some (.name _) =>
      makeAlong files.workingDirectory path.components.dropLast
      let files ← get
      match files.locate path with
      | .ok _ => pure ()
      | .error refusal => throw refusal
  | _, _ => makeAlong files.workingDirectory path.components

/-- Makes the directories above the last step of a path. -/
def makeParents (path : Path) : FileAction Refusal Unit := do
  let files ← get
  makeAlong files.workingDirectory path.components.dropLast

/-- Writes a file, in the place of an older one.  The directory has to exist.
Gives the location of the file. -/
def writeFile (path : Path) (content : Content) :
    FileAction Refusal Location := do
  let files ← get
  match path.steps.getLast? with
  | none => throw .missing
  | some (.name name) =>
      match path.steps.dropLast.foldlM files.follow files.workingDirectory with
      | .error refusal => throw refusal
      | .ok parent =>
          let location := parent ++ [name]
          if !files.isDirectoryAt parent || path.endsInSlash ||
              isNameTooLong name || files.isDirectoryAt location then
            throw .obstructed
          set (files.put location (.file content))
          pure location
  | some _ => throw .obstructed

/-- Copies the file at `source`.  The target is emptied when it is opened, so a
file that is copied onto itself is empty afterwards. -/
def copyFile (source : Location) (content : Content) (target : Path) :
    FileAction Refusal Unit := do
  let location ← writeFile target content
  if location = source then
    modify (·.put location (.file (.text "")))

/-- Removes a directory with its contents.  The contents go first; a path that
ends in `.` or `..` does not name the directory by its own name, so that the
directory itself stays and the removal fails, unless the path leads nowhere any
more. -/
def removeTree (path : Path) : FileAction Refusal Unit := do
  let files ← get
  match files.locate path with
  | .error refusal => throw refusal
  | .ok location =>
      if !files.isDirectoryAt location then throw .obstructed
      match path.steps.getLast? with
      | some (.name _) => set (files.removeAt location)
      | some .parent =>
          let emptied := files.removeBelow location
          set emptied
          if emptied.pathExists path then throw .obstructed
      | _ =>
          set (files.removeBelow location)
          throw .obstructed

end FileSystem

end WorkbookSite

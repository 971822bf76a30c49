import WorkbookSite.Toml.Table

/-!
# TOML documents

`Toml.parse` reads a whole document: lines of pairs and headers, with values of
every kind.  `fuel` bounds how many values and lines are read; the length of
the source always suffices.
-/

namespace WorkbookSite.Toml

def isKeyCharacter (character : Char) : Bool :=
  character.isAlphanum || character == '_' || character == '-'

def simpleKey? (source : List Char) : Option (String × List Char) :=
  let bare := source.takeWhile isKeyCharacter
  if bare.isEmpty then lineString? source
  else some (String.ofList bare, source.dropWhile isKeyCharacter)

/-- The parts of a key, with blanks around each. -/
def key? (fuel : Nat) (source : List Char) :
    Option (List String × List Char) :=
  match fuel with
  | 0 => none
  | fuel + 1 => do
      let (part, rest) ← simpleKey? (dropLineBlanks source)
      match dropLineBlanks rest with
      | '.' :: more =>
          let (parts, rest) ← key? fuel more
          some (part :: parts, rest)
      | rest => some ([part], rest)

/-- The table of a header: all keys but the last, and the last one. -/
def splitLast? (keys : List String) : Option (List String × String) :=
  keys.getLast?.map fun last => (keys.dropLast, last)

/-- What follows blanks, line ends and comments between the items of an
array. -/
def dropBetweenItems (fuel : Nat) (source : List Char) : List Char :=
  match fuel with
  | 0 => source
  | fuel + 1 =>
      match dropBlankLines source with
      | '#' :: comment =>
          dropBetweenItems fuel (comment.dropWhile isCommentCharacter)
      | rest => rest

mutual

def value? (fuel : Nat) (source : List Char) : Option (Value × List Char) :=
  match fuel with
  | 0 => none
  | fuel + 1 =>
      match source with
      | '"' :: _ | '\'' :: _ =>
          (string? source).map fun (text, rest) => (.text text, rest)
      | '[' :: rest =>
          (items? fuel (dropBetweenItems rest.length rest)).map
            fun (items, rest) => (.array items, rest)
      | '\x7b' :: rest =>
          match dropLineBlanks rest with
          | '\x7d' :: rest => some (.table .inline [], rest)
          | rest =>
              (pairs? fuel rest []).map fun (entries, rest) =>
                (.table .inline entries, rest)
      | _ => do
          let (word, rest) := Scalar.word source
          let scalar ← Scalar.ofWord? word
          some (.scalar scalar, rest)

/-- The items of an array up to its closing bracket. -/
def items? (fuel : Nat) (source : List Char) :
    Option (List Value × List Char) :=
  match fuel with
  | 0 => none
  | fuel + 1 =>
      match source with
      | ']' :: rest => some ([], rest)
      | _ => do
          let (item, rest) ← value? fuel source
          match dropBetweenItems rest.length rest with
          | ',' :: more =>
              let (items, rest) ←
                items? fuel (dropBetweenItems more.length more)
              some (item :: items, rest)
          | ']' :: rest => some ([item], rest)
          | _ => none

/-- The pairs of a table between braces, up to its closing brace. -/
def pairs? (fuel : Nat) (source : List Char) (entries : Entries) :
    Option (Entries × List Char) :=
  match fuel with
  | 0 => none
  | fuel + 1 => do
      let (keys, rest) ← key? source.length source
      let (path, key) ← splitLast? keys
      let (value, rest) ← value? fuel (dropLineBlanks (← Scalar.after? '=' rest))
      let entries ← entries.addDotted path key value
      match dropLineBlanks rest with
      | ',' :: more => pairs? fuel more entries
      | '\x7d' :: rest => some (entries, rest)
      | _ => none

end

/-- A document that is read line by line. -/
structure Reading where
  /-- The keys of the last header. -/
  header : List String := []
  entries : Entries := []

/-- Reads a header between brackets, after the opening ones. -/
def header? (reading : Reading) (source : List Char) :
    Option (Reading × List Char) := do
  match source with
  | '[' :: rest =>
      let (keys, rest) ← key? rest.length rest
      let (path, key) ← splitLast? keys
      let entries ← reading.entries.openElement path key
      some (⟨keys, entries⟩, ← Scalar.after? ']' (← Scalar.after? ']' rest))
  | _ =>
      let (keys, rest) ← key? source.length source
      let (path, key) ← splitLast? keys
      let entries ← reading.entries.openTable path key
      some (⟨keys, entries⟩, ← Scalar.after? ']' rest)

def pair? (reading : Reading) (source : List Char) :
    Option (Reading × List Char) := do
  let (keys, rest) ← key? source.length source
  let (path, key) ← splitLast? keys
  let rest := dropLineBlanks (← Scalar.after? '=' rest)
  let (value, rest) ← value? (rest.length + 1) rest
  let entries ← reading.entries.addPair reading.header path key value
  some (⟨reading.header, entries⟩, rest)

def lines? (fuel : Nat) (reading : Reading) (source : List Char) :
    Option Entries :=
  match fuel with
  | 0 => none
  | fuel + 1 =>
      match dropLineBlanks source with
      | [] => some reading.entries
      | '[' :: rest => do
          let (reading, rest) ← header? reading rest
          lines? fuel reading (← lineEnd? rest)
      | source =>
          match lineEnd? source with
          | some rest => lines? fuel reading rest
          | none => do
              let (reading, rest) ← pair? reading source
              lines? fuel reading (← lineEnd? rest)

/-- Reads a document; a byte order mark at its start says nothing. -/
def parse (text : String) : Option Entries :=
  let source :=
    match text.toList with
    | '\ufeff' :: rest => rest
    | source => source
  lines? (source.length + 1) {} source

end WorkbookSite.Toml

/-!
# Texts of a TOML document

Blanks, comments, line ends, and the four kinds of quoted strings.  A reader
takes what it reads from the start of its source and gives what is left.  Where
a string is read piece by piece, `fuel` bounds the number of pieces; the length
of the source always suffices.
-/

namespace WorkbookSite.Toml

def isLineBlank (character : Char) : Bool :=
  character == ' ' || character == '\t'

/-- Characters of a comment: all but the controls; a tab may stand too. -/
def isCommentCharacter (character : Char) : Bool :=
  character == '\t' || (' ' ≤ character && character != '\x7f')

def dropLineBlanks (source : List Char) : List Char :=
  source.dropWhile isLineBlank

/-- What follows a line end. -/
def newline? : List Char → Option (List Char)
  | '\n' :: rest => some rest
  | '\r' :: '\n' :: rest => some rest
  | _ => none

/-- What follows the blanks and the comment before a line end. -/
def dropComment (source : List Char) : List Char :=
  match dropLineBlanks source with
  | '#' :: comment => comment.dropWhile isCommentCharacter
  | rest => rest

/-- What follows the rest of a line that says nothing more. -/
def lineEnd? (source : List Char) : Option (List Char) :=
  match dropComment source with
  | [] => some []
  | rest => newline? rest

/-- What follows any number of blanks and line ends. -/
def dropBlankLines : List Char → List Char
  | '\r' :: '\n' :: rest => dropBlankLines rest
  | character :: rest =>
      if isLineBlank character || character == '\n' then dropBlankLines rest
      else character :: rest
  | [] => []

/-- Characters that stand for themselves in a quoted string. -/
def isStringCharacter (character : Char) : Bool :=
  isCommentCharacter character

def hexDigit? (character : Char) : Option Nat :=
  if character.isDigit then some (character.toNat - '0'.toNat)
  else if 'a' ≤ character ∧ character ≤ 'f' then
    some (character.toNat - 'a'.toNat + 10)
  else if 'A' ≤ character ∧ character ≤ 'F' then
    some (character.toNat - 'A'.toNat + 10)
  else none

/-- The character with the number that the first `digits` characters write in
hexadecimal. -/
def unicodeEscape? (digits : Nat) (source : List Char) :
    Option (Char × List Char) := do
  let written := source.take digits
  if written.length ≠ digits then none
  let code ← written.foldlM (fun code digit =>
    (hexDigit? digit).map (16 * code + ·)) 0
  if code.isValidChar then some (Char.ofNat code, source.drop digits)
  else none

def escape? : List Char → Option (Char × List Char)
  | 'b' :: rest => some ('\x08', rest)
  | 't' :: rest => some ('\t', rest)
  | 'n' :: rest => some ('\n', rest)
  | 'f' :: rest => some ('\x0c', rest)
  | 'r' :: rest => some ('\r', rest)
  | '"' :: rest => some ('"', rest)
  | '\\' :: rest => some ('\\', rest)
  | 'u' :: rest => unicodeEscape? 4 rest
  | 'U' :: rest => unicodeEscape? 8 rest
  | _ => none

/-- Puts a character before the text that was read after it. -/
def consText (character : Char) (read : Option (List Char × List Char)) :
    Option (List Char × List Char) :=
  read.map fun (text, rest) => (character :: text, rest)

/-- A string between double quotes, after the opening one. -/
def basicString? (fuel : Nat) (source : List Char) :
    Option (List Char × List Char) :=
  match fuel, source with
  | _, [] => none
  | 0, _ => none
  | fuel + 1, character :: rest =>
      if character = '"' then some ([], rest)
      else if character = '\\' then
        match escape? rest with
        | none => none
        | some (escaped, rest) => consText escaped (basicString? fuel rest)
      else if isStringCharacter character then
        consText character (basicString? fuel rest)
      else none

/-- A string between single quotes, after the opening one. -/
def literalString? : List Char → Option (List Char × List Char)
  | [] => none
  | character :: rest =>
      if character = '\'' then some ([], rest)
      else if isStringCharacter character then
        consText character (literalString? rest)
      else none

/-- The end of a string between three quotes, at the first place where three
quotes stand.  One or two more quotes before the last three belong to the
string. -/
def closing? (quote : Char) : List Char → Option (List Char × List Char)
  | first :: second :: third :: rest =>
      if first = quote ∧ second = quote ∧ third = quote then
        let more := (rest.take 2).takeWhile (· == quote)
        some (more, rest.drop more.length)
      else none
  | _ => none

/-- A backslash at the end of a line joins it to the next text: what follows
the backslash, the line end, and all blanks and line ends after it. -/
def lineJoin? (source : List Char) : Option (List Char) :=
  (newline? (dropLineBlanks source)).map dropBlankLines

/-- A string between three double quotes, after the opening ones.  Every line
end in it becomes a line feed. -/
def multilineBasic? (fuel : Nat) (source : List Char) :
    Option (List Char × List Char) :=
  match fuel, source with
  | _, [] => none
  | 0, _ => none
  | fuel + 1, character :: rest =>
      match closing? '"' (character :: rest) with
      | some finished => some finished
      | none =>
          if character = '\\' then
            match lineJoin? rest with
            | some rest => multilineBasic? fuel rest
            | none =>
                match escape? rest with
                | none => none
                | some (escaped, rest) =>
                    consText escaped (multilineBasic? fuel rest)
          else
            match newline? (character :: rest) with
            | some rest => consText '\n' (multilineBasic? fuel rest)
            | none =>
                if isStringCharacter character then
                  consText character (multilineBasic? fuel rest)
                else none

def multilineLiteral? (fuel : Nat) (source : List Char) :
    Option (List Char × List Char) :=
  match fuel, source with
  | _, [] => none
  | 0, _ => none
  | fuel + 1, character :: rest =>
      match closing? '\'' (character :: rest) with
      | some finished => some finished
      | none =>
          match newline? (character :: rest) with
          | some rest => consText '\n' (multilineLiteral? fuel rest)
          | none =>
              if isStringCharacter character then
                consText character (multilineLiteral? fuel rest)
              else none

/-- A line end directly after three opening quotes is no part of the string. -/
def dropFirstNewline (source : List Char) : List Char :=
  (newline? source).getD source

def lineString? (source : List Char) : Option (String × List Char) :=
  let read :=
    match source with
    | '"' :: rest => basicString? rest.length rest
    | '\'' :: rest => literalString? rest
    | _ => none
  read.map fun (text, rest) => (String.ofList text, rest)

def string? (source : List Char) : Option (String × List Char) :=
  match source with
  | '"' :: '"' :: '"' :: rest =>
      let body := dropFirstNewline rest
      (multilineBasic? body.length body).map fun (text, rest) =>
        (String.ofList text, rest)
  | '\'' :: '\'' :: '\'' :: rest =>
      let body := dropFirstNewline rest
      (multilineLiteral? body.length body).map fun (text, rest) =>
        (String.ofList text, rest)
  | _ => lineString? source

end WorkbookSite.Toml

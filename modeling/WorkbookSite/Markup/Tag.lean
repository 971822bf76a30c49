import WorkbookSite.Markup.CharacterReference
import WorkbookSite.Text.Blank

/-!
# Tags

A start tag is a name, an attribute section and an optional slash between angle
brackets; an end tag is a name only.  A tag is first recognised as a whole, and
its attribute section is then read by itself.  The readers split their source:
what they took and what is left make up the source again.
-/

namespace WorkbookSite.Markup

open Text (isBlank)

/-- A start tag with its name in lowercase and its values decoded. -/
structure StartTag where
  name : String
  attributes : List (String × String)
  selfClosing : Bool
deriving DecidableEq, Repr

/-- Characters that may follow the first letter of a tag name. -/
def isTagCharacter (character : Char) : Bool :=
  character.isAlphanum || character == '-'

def isAttributeCharacter (character : Char) : Bool :=
  !isBlank character && character != '"' && character != '\'' &&
    character != '>' && character != '/' && character != '='

/-- Characters of an attribute value without quotes. -/
def isBareCharacter (character : Char) : Bool :=
  !isBlank character && character != '"' && character != '\'' &&
    character != '=' && character != '<' && character != '>' &&
    character != '\x60'

/-- A name with its ASCII letters in lowercase. -/
def lowercase (name : List Char) : List Char := name.map Char.toLower

/-- The tag name at the start of `source`, and what follows it. -/
def tagName? : List Char → Option (List Char × List Char)
  | [] => none
  | initial :: rest =>
      if initial.isAlpha then
        some (initial :: rest.takeWhile isTagCharacter,
          rest.dropWhile isTagCharacter)
      else none

/-- An attribute value with the equals sign before it. -/
structure ValueSpan where
  /-- The sign and the value as they are written. -/
  written : List Char
  /-- The value without its quotes. -/
  value : List Char
  rest : List Char

/-- The value at the start of `source`; `sign` was written before it. -/
def valueAfterSign? (sign : List Char) (source : List Char) :
    Option ValueSpan :=
  match source with
  | [] => none
  | quote :: body =>
      if quote = '"' ∨ quote = '\'' then
        match body.dropWhile (· != quote) with
        | [] => none
        | closing :: rest =>
            let value := body.takeWhile (· != quote)
            some ⟨sign ++ quote :: value ++ [closing], value, rest⟩
      else
        let value := source.takeWhile isBareCharacter
        if value.isEmpty then none
        else some ⟨sign ++ value, value, source.dropWhile isBareCharacter⟩

/-- The equals sign and value at the start of `source`, with the blanks before
and after the sign. -/
def value? (source : List Char) : Option ValueSpan :=
  match source.dropWhile isBlank with
  | [] => none
  | sign :: afterSign =>
      if sign = '=' then
        valueAfterSign?
          (source.takeWhile isBlank ++ '=' :: afterSign.takeWhile isBlank)
          (afterSign.dropWhile isBlank)
      else none

/-- The attribute at the start of `source` as it is written, with the blanks
before it, and what follows it. -/
def attribute? (source : List Char) : Option (List Char × List Char) :=
  let blanks := source.takeWhile isBlank
  let afterBlanks := source.dropWhile isBlank
  let name := afterBlanks.takeWhile isAttributeCharacter
  let afterName := afterBlanks.dropWhile isAttributeCharacter
  if blanks.isEmpty || name.isEmpty then none
  else
    match value? afterName with
    | some span => some (blanks ++ name ++ span.written, span.rest)
    | none => some (blanks ++ name, afterName)

theorem valueAfterSign?_append {sign source : List Char} {span : ValueSpan}
    (found : valueAfterSign? sign source = some span) :
    span.written ++ span.rest = sign ++ source := by
  unfold valueAfterSign? at found
  split at found
  · simp at found
  · rename_i quote body
    split at found
    · split at found
      · simp at found
      · rename_i closing rest closed
        have whole := List.takeWhile_append_dropWhile
          (p := fun character => character != quote) (l := body)
        rw [closed] at whole
        cases found
        simpa using whole
    · simp only at found
      split at found
      · simp at found
      · cases found
        simp [List.takeWhile_append_dropWhile]

theorem value?_append {source : List Char} {span : ValueSpan}
    (found : value? source = some span) :
    span.written ++ span.rest = source := by
  unfold value? at found
  split at found
  · simp at found
  · rename_i sign afterSign signed
    split at found
    · rename_i isSign
      have whole := List.takeWhile_append_dropWhile
        (p := isBlank) (l := source)
      have after := List.takeWhile_append_dropWhile
        (p := isBlank) (l := afterSign)
      rw [valueAfterSign?_append found]
      rw [signed, isSign] at whole
      simpa [List.append_assoc, after] using whole
    · simp at found

theorem attribute?_append {source written rest : List Char}
    (found : attribute? source = some (written, rest)) :
    written ++ rest = source := by
  have blanks := List.takeWhile_append_dropWhile (p := isBlank) (l := source)
  have name := List.takeWhile_append_dropWhile (p := isAttributeCharacter)
    (l := source.dropWhile isBlank)
  unfold attribute? at found
  simp only at found
  split at found
  · simp at found
  · split at found
    · rename_i span valued
      cases found
      rw [List.append_assoc, value?_append valued, List.append_assoc, name,
        blanks]
    · cases found
      rw [List.append_assoc, name, blanks]

theorem attribute?_shorter {source written rest : List Char}
    (found : attribute? source = some (written, rest)) :
    rest.length < source.length := by
  have whole := attribute?_append found
  have taken : written ≠ [] := by
    unfold attribute? at found
    simp only at found
    split at found
    · simp at found
    · rename_i present
      split at found <;> cases found <;> simp_all
  have positive : 0 < written.length := List.length_pos_iff.mpr taken
  have lengths := congrArg List.length whole
  simp at lengths
  omega

/-- The longest attribute section at the start of `source`, and what follows
it. -/
def attributeSection (source : List Char) : List Char × List Char :=
  match attribute? source with
  | none => ([], source)
  | some (written, rest) =>
      if _shorter : rest.length < source.length then
        let (more, after) := attributeSection rest
        (written ++ more, after)
      else ([], source)
termination_by source.length

theorem attributeSection_of_attribute? {source written rest : List Char}
    (found : attribute? source = some (written, rest)) :
    attributeSection source =
      (written ++ (attributeSection rest).1, (attributeSection rest).2) := by
  rw [attributeSection]
  simp [found, attribute?_shorter found]

theorem value?_length {source : List Char} {span : ValueSpan}
    (found : value? source = some span) :
    span.rest.length ≤ source.length := by
  have lengths := congrArg List.length (value?_append found)
  simp at lengths
  omega

/-- The first attribute of an attribute section, and what follows it: its name
in lowercase and its value decoded, or the empty text where no value is
written. -/
def nextAttribute? (source : List Char) :
    Option ((String × String) × List Char) :=
  match source.dropWhile fun character => !isAttributeCharacter character with
  | [] => none
  | initial :: rest =>
      let name := initial :: rest.takeWhile isAttributeCharacter
      let afterName := rest.dropWhile isAttributeCharacter
      match value? afterName with
      | some span =>
          let value := CharacterReference.decode span.value
          some ((String.ofList (lowercase name), String.ofList value),
            span.rest)
      | none => some ((String.ofList (lowercase name), ""), afterName)

theorem nextAttribute?_shorter {source rest : List Char}
    {pair : String × String}
    (found : nextAttribute? source = some (pair, rest)) :
    rest.length < source.length := by
  have skipped := (List.dropWhile_sublist
    (fun character => !isAttributeCharacter character) (l := source)).length_le
  unfold nextAttribute? at found
  split at found
  · simp at found
  · rename_i initial tail start
    have shorter := (List.dropWhile_sublist isAttributeCharacter
      (l := tail)).length_le
    rw [start] at skipped
    simp only [List.length_cons] at skipped
    simp only at found
    split at found
    · rename_i span valued
      have left := value?_length valued
      cases found
      omega
    · cases found
      omega

def readAttributes (source : List Char) : List (String × String) :=
  match nextAttribute? source with
  | none => []
  | some (pair, rest) =>
      pair ::
        if _shorter : rest.length < source.length then readAttributes rest
        else []
termination_by source.length

theorem readAttributes_of_nextAttribute? {source rest : List Char}
    {pair : String × String}
    (found : nextAttribute? source = some (pair, rest)) :
    readAttributes source = pair :: readAttributes rest := by
  rw [readAttributes]
  simp [found, nextAttribute?_shorter found]

/-- The end of a start tag: blanks, an optional slash, and the bracket.  Gives
whether there was a slash, and what follows the tag. -/
def startTagEnd? (source : List Char) : Option (Bool × List Char) :=
  match source.dropWhile isBlank with
  | '/' :: '>' :: rest => some (true, rest)
  | '>' :: rest => some (false, rest)
  | _ => none

/-- The start tag whose opening bracket stands before `source`, and what
follows it. -/
def startTag? (source : List Char) : Option (StartTag × List Char) := do
  let (name, afterName) ← tagName? source
  let (selfClosing, rest) ← startTagEnd? (attributeSection afterName).2
  let attributes := readAttributes (attributeSection afterName).1
  some (⟨String.ofList (lowercase name), attributes, selfClosing⟩, rest)

/-- The name of the end tag whose opening bracket and slash stand before
`source`, in lowercase, and what follows the tag. -/
def endTag? (source : List Char) : Option (String × List Char) := do
  let (name, afterName) ← tagName? source
  match afterName.dropWhile isBlank with
  | '>' :: rest => some (String.ofList (lowercase name), rest)
  | _ => none

theorem tagName?_length {source name rest : List Char}
    (found : tagName? source = some (name, rest)) :
    rest.length < source.length := by
  unfold tagName? at found
  split at found
  · simp at found
  · rename_i initial tail
    split at found
    · cases found
      have shorter := (List.dropWhile_sublist isTagCharacter
        (l := tail)).length_le
      simp only [List.length_cons]
      omega
    · simp at found

theorem attributeSection_length (source : List Char) :
    (attributeSection source).2.length ≤ source.length := by
  fun_induction attributeSection source with
  | case1 => simp
  | case2 source written rest found shorter more after split induction =>
      simp only [split] at induction
      simp only
      omega
  | case3 => simp

theorem startTagEnd?_length {source rest : List Char} {selfClosing : Bool}
    (found : startTagEnd? source = some (selfClosing, rest)) :
    rest.length ≤ source.length := by
  have shorter := (List.dropWhile_sublist isBlank (l := source)).length_le
  unfold startTagEnd? at found
  split at found <;> simp_all <;> omega

theorem startTag?_length {source rest : List Char} {tag : StartTag}
    (found : startTag? source = some (tag, rest)) :
    rest.length < source.length := by
  simp only [startTag?, Option.bind_eq_bind, Option.bind_eq_some_iff] at found
  obtain ⟨⟨name, afterName⟩, named, ⟨selfClosing, after⟩, ended, result⟩ :=
    found
  have first := tagName?_length named
  have second := attributeSection_length afterName
  have third : after.length ≤ (attributeSection afterName).2.length :=
    startTagEnd?_length ended
  have same : after = rest := (Prod.mk.inj (Option.some.inj result)).2
  subst same
  omega

theorem endTag?_length {source rest : List Char} {name : String}
    (found : endTag? source = some (name, rest)) :
    rest.length < source.length := by
  simp only [endTag?, Option.bind_eq_bind, Option.bind_eq_some_iff] at found
  obtain ⟨⟨written, afterName⟩, named, result⟩ := found
  have first := tagName?_length named
  have second := (List.dropWhile_sublist isBlank (l := afterName)).length_le
  simp only at result
  split at result
  · rename_i tail closed
    cases result
    rw [closed] at second
    simp only [List.length_cons] at second
    omega
  · simp at result

end WorkbookSite.Markup

import WorkbookSite.Markup.Tag
import WorkbookSite.Markup.Vocabulary

/-!
# Tokens

A token is a piece of markup source: a text run, a comment, a start tag or an
end tag.  `Token.scan` splits a source into tokens up to its end or to the
first place where no token can be read.  What a token is does not depend on the
elements that are open around it.
-/

namespace WorkbookSite.Markup

/-- A token, with its character references decoded. -/
inductive Token where
  | text (content : String)
  | comment (content : String)
  | startTag (tag : StartTag)
  | endTag (name : String)
deriving DecidableEq, Repr

/-- What is wrong with a source.  Offsets count the bytes of its UTF-8 form. -/
inductive FragmentError where
  | malformedTag (offset : Nat)
  | unterminatedComment (offset : Nat)
  | unexpectedEndTag (tag : String)
  | mismatchedEndTag (expected found : String)
  | voidEndTag (tag : String)
  | unclosed (tag : String)
deriving DecidableEq, Repr

namespace FragmentError

def message : FragmentError → String
  | .malformedTag offset =>
      String.join ["malformed tag at offset ", toString offset]
  | .unterminatedComment offset =>
      String.join ["unterminated comment at offset ", toString offset]
  | .unexpectedEndTag tag =>
      String.join ["end tag </", tag, "> has no matching start tag"]
  | .mismatchedEndTag expected found =>
      String.join ["expected </", expected, "> but found </", found, ">"]
  | .voidEndTag tag =>
      String.join ["void element <", tag, "> cannot have an end tag"]
  | .unclosed tag => String.join ["element <", tag, "> is never closed"]

end FragmentError

def utf8Length (text : List Char) : Nat :=
  text.foldl (fun total character => total + character.utf8Size) 0

/-- Splits `source` at the first place where `starts` holds of what follows. -/
def splitWhere (starts : List Char → Bool) :
    List Char → Option (List Char × List Char)
  | [] => if starts [] then some ([], []) else none
  | character :: rest =>
      if starts (character :: rest) then some ([], character :: rest)
      else
        (splitWhere starts rest).map fun (before, after) =>
          (character :: before, after)

theorem splitWhere_append {starts : List Char → Bool}
    {source before after : List Char}
    (found : splitWhere starts source = some (before, after)) :
    before ++ after = source := by
  induction source generalizing before after with
  | nil =>
      simp only [splitWhere] at found
      split at found <;> simp_all
  | cons character rest induction =>
      simp only [splitWhere] at found
      split at found
      · simp_all
      · obtain ⟨⟨inner, tail⟩, inside, same⟩ := Option.map_eq_some_iff.mp found
        obtain ⟨rfl, rfl⟩ := Prod.mk.inj same
        simp [induction inside]

/-- Whether an end tag of the element `name` may start here, in any case. -/
def startsEndTag (name : String) (source : List Char) : Bool :=
  let opening := '<' :: '/' :: name.toList
  lowercase (source.take opening.length) == opening

/-- What is read at the start of a source. -/
inductive Reading where
  | tokens (read : List Token) (rest : List Char)
  | failed (error : FragmentError)

/-- The rest that a reading leaves is shorter than `length`. -/
def Reading.Below (length : Nat) : Reading → Prop
  | .tokens _ rest => rest.length < length
  | .failed _ => True

theorem Reading.Below.mono {reading : Reading} {small large : Nat}
    (below : reading.Below small) (order : small ≤ large) :
    reading.Below large := by
  cases reading with
  | tokens read rest => exact Nat.lt_of_lt_of_le below order
  | failed error => trivial

namespace Token

/-- The text of an element that is not read as markup: it ends where an end tag
of that element may start. -/
def readBody (tag : StartTag) (rest : List Char) : Reading :=
  match splitWhere (startsEndTag tag.name) rest with
  | none => .failed (.unclosed tag.name)
  | some (body, after) =>
      let content :=
        if textMode tag.name = .raw then body
        else CharacterReference.decode body
      if body.isEmpty then .tokens [.startTag tag] after
      else .tokens [.startTag tag, .text (String.ofList content)] after

/-- The tokens of a start tag, after its opening bracket.  `offset` is the
place of the bracket. -/
def readStartTag (offset : Nat) (source : List Char) : Reading :=
  match startTag? source with
  | none => .failed (.malformedTag offset)
  | some (tag, rest) =>
      if tag.selfClosing || isVoid tag.name || textMode tag.name == .normal then
        .tokens [.startTag tag] rest
      else readBody tag rest

/-- The token of an end tag, after its opening bracket and slash. -/
def readEndTag (offset : Nat) (source : List Char) : Reading :=
  match endTag? source with
  | none => .failed (.malformedTag offset)
  | some (name, rest) => .tokens [.endTag name] rest

def readComment (offset : Nat) (source : List Char) : Reading :=
  match splitWhere ("-->".toList.isPrefixOf ·) source with
  | none => .failed (.unterminatedComment offset)
  | some (body, after) => .tokens [.comment (String.ofList body)] (after.drop 3)

/-- The tokens after an opening bracket.  A bracket that opens nothing is
text. -/
def readMarkup (offset : Nat) (source : List Char) : Reading :=
  match source with
  | '!' :: '-' :: '-' :: rest => readComment offset rest
  | '/' :: rest => readEndTag offset rest
  | [] => .tokens [.text "<"] []
  | character :: rest =>
      if character.isAlpha || character == '!' then
        readStartTag offset (character :: rest)
      else .tokens [.text "<"] (character :: rest)

/-- The tokens at the start of a source that is not empty.  `total` is the
number of bytes of the whole source. -/
def readNext (total : Nat) (character : Char) (rest : List Char) : Reading :=
  if character = '<' then
    readMarkup (total - utf8Length (character :: rest)) rest
  else
    let run := character :: rest.takeWhile (· != '<')
    .tokens [.text (String.ofList (CharacterReference.decode run))]
      (rest.dropWhile (· != '<'))

theorem readBody_below (tag : StartTag) (rest : List Char) :
    (readBody tag rest).Below (rest.length + 1) := by
  unfold readBody
  split
  · trivial
  · rename_i body after found
    have lengths := congrArg List.length (splitWhere_append found)
    simp only [List.length_append] at lengths
    simp only
    split <;> simp only [Reading.Below] <;> omega

theorem readStartTag_below (offset : Nat) (source : List Char) :
    (readStartTag offset source).Below (source.length + 1) := by
  unfold readStartTag
  split
  · trivial
  · rename_i tag rest found
    have shorter := startTag?_length found
    split
    · simp only [Reading.Below]; omega
    · exact (readBody_below tag rest).mono (by omega)

theorem readComment_below (offset : Nat) (source : List Char) :
    (readComment offset source).Below (source.length + 1) := by
  unfold readComment
  split
  · trivial
  · rename_i body after found
    have lengths := congrArg List.length (splitWhere_append found)
    simp only [List.length_append] at lengths
    simp only [Reading.Below, List.length_drop]
    omega

theorem readMarkup_below (offset : Nat) (source : List Char) :
    (readMarkup offset source).Below (source.length + 1) := by
  unfold readMarkup
  split
  · rename_i rest
    exact (readComment_below offset rest).mono
      (by simp only [List.length_cons]; omega)
  · rename_i rest
    unfold readEndTag
    split
    · trivial
    · rename_i name after found
      have shorter := endTag?_length found
      simp only [Reading.Below, List.length_cons]
      omega
  · simp [Reading.Below]
  · rename_i character rest _ _
    split
    · exact readStartTag_below offset (character :: rest)
    · simp [Reading.Below]

theorem readNext_below (total : Nat) (character : Char) (rest : List Char) :
    (readNext total character rest).Below (rest.length + 1) := by
  unfold readNext
  split
  · exact readMarkup_below _ rest
  · have shorter := (List.dropWhile_sublist (fun item => item != '<')
      (l := rest)).length_le
    simp only [Reading.Below]
    omega

/-- The tokens of the rest of a source of `total` bytes, and what is wrong at
the place where they end, if that is not the end of the source. -/
def scanRest (total : Nat) : List Char → List Token × Option FragmentError
  | [] => ([], none)
  | character :: rest =>
      match readNext total character rest with
      | .failed error => ([], some error)
      | .tokens read after =>
          if _shorter : after.length ≤ rest.length then
            let (tokens, error) := scanRest total after
            (read ++ tokens, error)
          else (read, none)
termination_by source => source.length
decreasing_by
  simp only [List.length_cons]
  omega

/-- The tokens go on after a reading: the check on its length never fails. -/
theorem scanRest_of_readNext {total : Nat} {character : Char}
    {rest after : List Char} {read : List Token}
    (found : readNext total character rest = .tokens read after) :
    scanRest total (character :: rest) =
      (read ++ (scanRest total after).1, (scanRest total after).2) := by
  have below := readNext_below total character rest
  rw [found] at below
  rw [scanRest]
  simp [found, Nat.le_of_lt_succ below]

def scan (source : List Char) : List Token × Option FragmentError :=
  scanRest (utf8Length source) source

end Token

end WorkbookSite.Markup

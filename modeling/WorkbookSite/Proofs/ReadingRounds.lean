import WorkbookSite.Proofs.ByteOffsets
import WorkbookSite.Proofs.Outcomes
import WorkbookSite.Proofs.TagPatterns

/-!
# Rounds of the reader

The source of a fragment can be read without splitting it into tokens first.  A
reader stands at an offset, and each round of its loop looks for the next
bracket, matches a pattern, or searches a mark, always in the text behind that
offset.  Every cut a round makes is at a character boundary, every round that
goes on moves the offset forward, and the rounds come to the same result as the
tokens.
-/

namespace WorkbookSite.Markup

open CharacterReference (decode)
open Text (Position)

/-- Puts text at the place where the next node goes. -/
def Assembly.takeText (assembly : Assembly) (text : List Char) : Assembly :=
  assembly.modifyNodes (appendText · (String.ofList text))

/-- How far a source was read, in bytes, and what is put together of it. -/
structure Reader where
  position : Nat := 0
  assembly : Assembly := {}

/-- What a round of the reader comes to. -/
inductive Round where
  /-- Everything was read. -/
  | finished (assembly : Assembly)
  | moved (next : Reader)
  | failed (error : FragmentError)

/-! A round gives nothing if it cuts the source where it cannot be cut. -/

namespace Reader

/-- A comment starts at the position. -/
def readComment? (source : List Char) (reader : Reader) : Option Round := do
  let bodyStart := reader.position + 4
  let rest ← dropBytes? bodyStart source
  match findBytes? "-->".toList rest with
  | none => some (.failed (.unterminatedComment reader.position))
  | some length =>
      let body ← slice? bodyStart (bodyStart + length) source
      let node := Node.comment (String.ofList body)
      some (.moved ⟨bodyStart + length + 3, reader.assembly.append node⟩)

/-- An end tag should stand at the position. -/
def readEndTag? (source : List Char) (reader : Reader) : Option Round := do
  let rest ← dropBytes? reader.position source
  match endTagPattern.match? rest with
  | none => some (.failed (.malformedTag reader.position))
  | some found =>
      let name := String.ofList (lowercase (groupText found.groups 1))
      let length := utf8Length (Position.taken ⟨rest, []⟩ found)
      match reader.assembly.takeEndTag name with
      | .error error => some (.failed error)
      | .ok assembly => some (.moved ⟨reader.position + length, assembly⟩)

/-- The text of an element that is not read as markup starts at the position.
The place where it ends is searched in a copy of the source in lowercase. -/
def readBody? (source : List Char) (name : String) (reader : Reader) :
    Option Round := do
  let rest ← dropBytes? reader.position source
  match findBytes? (lowercase ('<' :: '/' :: name.toList)) (lowercase rest) with
  | none => some (.failed (.unclosed name))
  | some length =>
      let body ← slice? reader.position (reader.position + length) source
      let content := if textMode name = .raw then body else decode body
      some (.moved
        ⟨reader.position + length, reader.assembly.takeText content⟩)

/-- A start tag should stand at the position. -/
def readStartTag? (source : List Char) (reader : Reader) : Option Round := do
  let rest ← dropBytes? reader.position source
  match startTagPattern.match? rest with
  | none => some (.failed (.malformedTag reader.position))
  | some found =>
      let tag := matchedTag found.groups
      let length := utf8Length (Position.taken ⟨rest, []⟩ found)
      let next : Reader :=
        ⟨reader.position + length, reader.assembly.takeStartTag tag⟩
      if tag.selfClosing || isVoid tag.name || textMode tag.name == .normal then
        some (.moved next)
      else next.readBody? source tag.name

/-- A bracket stands at the position, at the start of `rest`. -/
def readMarkup? (source rest : List Char) (reader : Reader) : Option Round :=
  if "<!--".toList.isPrefixOf rest then reader.readComment? source
  else if "</".toList.isPrefixOf rest then reader.readEndTag? source
  else do
    let afterBracket ← dropBytes? 1 rest
    if afterBracket.head?.any fun initial =>
        initial.isAlpha || initial == '!' then
      reader.readStartTag? source
    else
      some (.moved
        ⟨reader.position + 1, reader.assembly.takeText (decode ['<'])⟩)

/-- One round of the loop. -/
def round? (source : List Char) (reader : Reader) : Option Round := do
  let rest ← dropBytes? reader.position source
  match findBytes? ['<'] rest with
  | none => some (.finished (reader.assembly.takeText (decode rest)))
  | some length =>
      if 0 < length then
        let run ← takeBytes? length rest
        some (.moved
          ⟨reader.position + length, reader.assembly.takeText (decode run)⟩)
      else reader.readMarkup? source rest

end Reader

/-- The round that is made before `text` comes to the same as reading the next
tokens there. -/
inductive Agrees (text : List Char) (reader : Reader) :
    Reading → Option Round → Prop where
  | failed (error : FragmentError) :
      Agrees text reader (.failed error) (some (.failed error))
  | refused {read : List Token} {after : List Char} {error : FragmentError}
      (taken : read.foldlM Assembly.take reader.assembly = .error error) :
      Agrees text reader (.tokens read after) (some (.failed error))
  | moved {read : List Token} {after : List Char} {next : Reader}
      (written : List Char)
      (taken : read.foldlM Assembly.take reader.assembly = .ok next.assembly)
      (whole : text = written ++ after) (present : written ≠ [])
      (further : next.position = reader.position + utf8Length written) :
      Agrees text reader (.tokens read after) (some (.moved next))
  | finished {read : List Token} {assembly : Assembly}
      (taken : read.foldlM Assembly.take reader.assembly = .ok assembly)
      (added : assembly = reader.assembly.takeText (decode text))
      (plain : '<' ∉ text) :
      Agrees text reader (.tokens read []) (some (.finished assembly))

theorem StartTagSpelled.ne_nil {written : List Char} {tag : StartTag}
    (spelled : StartTagSpelled written tag) : written ≠ [] := by
  obtain ⟨named, listed, blank⟩ := spelled
  exact List.cons_ne_nil _ _

theorem EndTagSpelled.ne_nil {written : List Char} {name : String}
    (spelled : EndTagSpelled written name) : written ≠ [] := by
  obtain ⟨named, blank⟩ := spelled
  exact List.cons_ne_nil _ _

section Rounds

variable (before rest : List Char) (assembly : Assembly)

theorem agrees_readComment? :
    Agrees ('<' :: '!' :: '-' :: '-' :: rest) ⟨utf8Length before, assembly⟩
      (Token.readComment (utf8Length before) rest)
      (Reader.readComment? (before ++ '<' :: '!' :: '-' :: '-' :: rest)
        ⟨utf8Length before, assembly⟩) := by
  have start : utf8Length before + 4 =
      utf8Length (before ++ ['<', '!', '-', '-']) := by
    rw [utf8Length_append]
    rfl
  have cut : before ++ '<' :: '!' :: '-' :: '-' :: rest =
      before ++ ['<', '!', '-', '-'] ++ rest := by simp
  rw [Reader.readComment?, cut, start, dropBytes?_append, Option.bind_eq_bind,
    Option.bind_some, findBytes?_eq, Token.readComment]
  cases split : splitWhere ("-->".toList.isPrefixOf ·) rest with
  | none => exact .failed _
  | some parts =>
      obtain ⟨body, tail⟩ := parts
      obtain rfl := splitWhere_append split
      obtain ⟨⟨middle, rfl⟩, -⟩ :=
        (splitWhere_commentEnd_iff body tail).mp split
      simp only [Option.map_some]
      rw [slice?_append]
      refine .moved (['<', '!', '-', '-'] ++ (body ++ "-->".toList)) rfl ?_
        (List.cons_ne_nil _ _) ?_
      · simp
      · have mark : utf8Length "-->".toList = 3 := rfl
        simp only [utf8Length_append, mark]
        omega

theorem agrees_readEndTag? :
    Agrees ('<' :: '/' :: rest) ⟨utf8Length before, assembly⟩
      (Token.readEndTag (utf8Length before) rest)
      (Reader.readEndTag? (before ++ '<' :: '/' :: rest)
        ⟨utf8Length before, assembly⟩) := by
  rw [Reader.readEndTag?, dropBytes?_append, Option.bind_eq_bind,
    Option.bind_some, Token.readEndTag, endTag?_eq_match?]
  cases matched : endTagPattern.match? ('<' :: '/' :: rest) with
  | none => exact .failed _
  | some found =>
      have ended : endTag? rest = some
          (String.ofList (lowercase (groupText found.groups 1)),
            found.rest) := by
        rw [endTag?_eq_match?, matched, Option.map_some]
      obtain ⟨written, whole, spelled⟩ := EndTagSpelled.of_endTag? ended
      have taken : Position.taken ⟨'<' :: '/' :: rest, []⟩ found = written :=
        Position.taken_eq whole
      simp only [Option.map_some, taken]
      split
      · rename_i error refused
        exact .refused (by rw [List.foldlM_cons, Assembly.take, refused]; rfl)
      · rename_i next accepted
        refine .moved written ?_ whole spelled.ne_nil rfl
        rw [List.foldlM_cons, Assembly.take, accepted]
        rfl

/-- An element that is opened has no text yet. -/
theorem takeText_takeStartTag {tag : StartTag}
    (opens : (tag.selfClosing || isVoid tag.name) = false) :
    (assembly.takeStartTag tag).takeText [] = assembly.takeStartTag tag := by
  simp [Assembly.takeStartTag, opens, Assembly.openElement,
    Assembly.takeText, Assembly.modifyNodes, appendText]

theorem agrees_readBody? {tag : StartTag} {written : List Char}
    (small : lowercase tag.name.toList = tag.name.toList)
    (opens : (tag.selfClosing || isVoid tag.name) = false)
    (present : written ≠ []) :
    Agrees (written ++ rest) ⟨utf8Length before, assembly⟩
      (Token.readBody tag rest)
      (Reader.readBody? (before ++ (written ++ rest)) tag.name
        ⟨utf8Length before + utf8Length written,
          assembly.takeStartTag tag⟩) := by
  rw [← List.append_assoc, ← utf8Length_append, Reader.readBody?,
    dropBytes?_append, Option.bind_eq_bind, Option.bind_some,
    findBytes?_endTag small, Token.readBody]
  cases split : splitWhere (startsEndTag tag.name) rest with
  | none => exact .failed _
  | some parts =>
      obtain ⟨body, tail⟩ := parts
      obtain rfl := splitWhere_append split
      simp only [Option.map_some]
      rw [slice?_append]
      split
      · rename_i empty
        obtain rfl := List.isEmpty_iff.mp empty
        have noText : decode [] = [] := rfl
        refine .moved written ?_ rfl present ?_
        · simp only [noText, ite_self, takeText_takeStartTag assembly opens]
          rfl
        · simp
      · refine .moved (written ++ body) rfl (by simp) ?_ ?_
        · exact List.append_ne_nil_of_left_ne_nil present body
        · simp only [utf8Length_append, Nat.add_assoc]

theorem agrees_readStartTag? :
    Agrees ('<' :: rest) ⟨utf8Length before, assembly⟩
      (Token.readStartTag (utf8Length before) rest)
      (Reader.readStartTag? (before ++ '<' :: rest)
        ⟨utf8Length before, assembly⟩) := by
  rw [Reader.readStartTag?, dropBytes?_append, Option.bind_eq_bind,
    Option.bind_some, Token.readStartTag, startTag?_eq_match?]
  cases matched : startTagPattern.match? ('<' :: rest) with
  | none => exact .failed _
  | some found =>
      have started : startTag? rest =
          some (matchedTag found.groups, found.rest) := by
        rw [startTag?_eq_match?, matched, Option.map_some]
      obtain ⟨written, whole, spelled⟩ := StartTagSpelled.of_startTag? started
      have taken : Position.taken ⟨'<' :: rest, []⟩ found = written :=
        Position.taken_eq whole
      simp only [Option.map_some, taken]
      split
      · exact .moved written rfl whole spelled.ne_nil rfl
      · rename_i notPlain
        rw [whole]
        exact agrees_readBody? before found.rest assembly
          (fits_of_startTag? started).1.lowercase_eq
          (Bool.or_eq_false_iff.mp (Bool.eq_false_iff.mpr notPlain)).1
          spelled.ne_nil

theorem agrees_bracket :
    Agrees ('<' :: rest) ⟨utf8Length before, assembly⟩
      (.tokens [.text "<"] rest)
      (some (.moved
        ⟨utf8Length before + 1, assembly.takeText (decode ['<'])⟩)) := by
  have plain : decode ['<'] = ['<'] := by decide
  rw [plain]
  exact .moved ['<'] rfl rfl (List.cons_ne_nil _ _) rfl

theorem agrees_readMarkup? :
    Agrees ('<' :: rest) ⟨utf8Length before, assembly⟩
      (Token.readMarkup (utf8Length before) rest)
      (Reader.readMarkup? (before ++ '<' :: rest) ('<' :: rest)
        ⟨utf8Length before, assembly⟩) := by
  have cut : dropBytes? 1 ('<' :: rest) = some rest :=
    dropBytes?_append ['<'] rest
  rw [Reader.readMarkup?, cut, Option.bind_eq_bind, Option.bind_some,
    Token.readMarkup.eq_def]
  split
  · exact agrees_readComment? before _ assembly
  · exact agrees_readEndTag? before _ assembly
  · exact agrees_bracket before [] assembly
  · rename_i character more noComment noSlash
    have comment :
        ¬ "<!--".toList.isPrefixOf ('<' :: character :: more) = true := by
      rw [List.isPrefixOf_iff_prefix]
      rintro ⟨body, whole⟩
      have same : ['!', '-', '-'] ++ body = character :: more :=
        (List.cons.inj whole).2
      obtain ⟨rfl, rfl⟩ := List.cons.inj same
      exact noComment body rfl rfl
    have slash :
        ¬ "</".toList.isPrefixOf ('<' :: character :: more) = true := by
      rw [List.isPrefixOf_iff_prefix]
      rintro ⟨body, whole⟩
      have same : '/' :: body = character :: more := (List.cons.inj whole).2
      exact noSlash (List.cons.inj same).1.symm
    rw [if_neg comment, if_neg slash, List.head?_cons, Option.any_some]
    split
    · exact agrees_readStartTag? before _ assembly
    · exact agrees_bracket before _ assembly

theorem agrees_round? (character : Char) :
    Agrees (character :: rest) ⟨utf8Length before, assembly⟩
      (Token.readNext (utf8Length (before ++ character :: rest)) character rest)
      (Reader.round? (before ++ character :: rest)
        ⟨utf8Length before, assembly⟩) := by
  rw [Reader.round?, dropBytes?_append, Option.bind_eq_bind, Option.bind_some,
    findBytes?_bracket, Token.readNext, utf8Length_append,
    Nat.add_sub_cancel_right]
  by_cases bracket : character = '<'
  · subst bracket
    rw [if_pos rfl, if_pos List.mem_cons_self]
    exact agrees_readMarkup? before rest assembly
  · rw [if_neg bracket]
    have run : (character :: rest).takeWhile (· != '<') =
        character :: rest.takeWhile (· != '<') :=
      List.takeWhile_cons_of_pos (bne_iff_ne.mpr bracket)
    have whole : character :: rest = (character :: rest.takeWhile (· != '<')) ++
        rest.dropWhile (· != '<') := by simp
    by_cases later : '<' ∈ rest
    · rw [if_pos (List.mem_cons_of_mem _ later), run]
      have positive := utf8Length_pos (List.cons_ne_nil character
        (rest.takeWhile (· != '<')))
      simp only [if_pos positive]
      rw [whole, takeBytes?_append]
      exact .moved _ rfl rfl (List.cons_ne_nil _ _) rfl
    · have plain : '<' ∉ character :: rest := by
        simp [Ne.symm bracket, later]
      have all : ∀ other ∈ rest, (other != '<') = true := by
        intro other listed
        rw [bne_iff_ne]
        rintro rfl
        exact later listed
      rw [if_neg plain, List.takeWhile_eq_self_iff.mpr all,
        List.dropWhile_eq_nil_iff.mpr all]
      exact .finished rfl rfl plain

end Rounds

namespace Reader

/-- The readers that the loop comes to.  A round is made as long as something
of the source is left. -/
inductive Reached (source : List Char) : Reader → Prop where
  | start : Reached source {}
  | next {reader next : Reader} (reached : Reached source reader)
      (left : reader.position < utf8Length source)
      (round : reader.round? source = some (.moved next)) :
      Reached source next

/-- The loop goes on from a reader to its end, with this result. -/
inductive Ends (source : List Char) :
    Reader → Except FragmentError Assembly → Prop where
  | read {reader : Reader} (nothing : ¬ reader.position < utf8Length source) :
      Ends source reader (.ok reader.assembly)
  | finished {reader : Reader} {assembly : Assembly}
      (left : reader.position < utf8Length source)
      (round : reader.round? source = some (.finished assembly)) :
      Ends source reader (.ok assembly)
  | failed {reader : Reader} {error : FragmentError}
      (left : reader.position < utf8Length source)
      (round : reader.round? source = some (.failed error)) :
      Ends source reader (.error error)
  | moved {reader next : Reader} {result : Except FragmentError Assembly}
      (left : reader.position < utf8Length source)
      (round : reader.round? source = some (.moved next))
      (later : Ends source next result) : Ends source reader result

/-- A round is made, and it fails, takes the whole rest of the source as text,
or moves the reader forward. -/
def Advances (source : List Char) (reader : Reader) : Option Round → Prop
  | none => False
  | some (.failed _) => True
  | some (.finished assembly) =>
      ∃ rest, dropBytes? reader.position source = some rest ∧ '<' ∉ rest ∧
        assembly = reader.assembly.takeText (decode rest)
  | some (.moved next) => reader.position < next.position

end Reader

section Loop

variable {source : List Char} {reader : Reader}

/-- A round from a place where the source can be cut comes to the same as
reading tokens there. -/
theorem exists_agrees {before after : List Char}
    (here : reader.position = utf8Length before)
    (left : reader.position < utf8Length (before ++ after)) :
    ∃ reading, Agrees after reader reading
      (reader.round? (before ++ after)) := by
  obtain ⟨position, assembly⟩ := reader
  subst here
  have present : after ≠ [] := by
    rintro rfl
    simp at left
  obtain ⟨character, rest, rfl⟩ := List.exists_cons_of_ne_nil present
  exact ⟨_, agrees_round? before rest assembly character⟩

/-- The loop comes to character boundaries only. -/
theorem Reader.Reached.exists_append (reached : Reader.Reached source reader) :
    ∃ before after, source = before ++ after ∧
      reader.position = utf8Length before := by
  induction reached with
  | start => exact ⟨[], source, rfl, rfl⟩
  | next reached left round induction =>
      obtain ⟨before, after, rfl, here⟩ := induction
      obtain ⟨reading, agrees⟩ := exists_agrees here left
      rw [round] at agrees
      cases agrees with
      | @moved _ rest _ written taken whole present further =>
          refine ⟨before ++ written, rest, ?_, ?_⟩
          · rw [List.append_assoc, ← whole]
          · rw [further, here, utf8Length_append]

/-- Every round that the loop makes is a step forward. -/
theorem Reader.Reached.advances (reached : Reader.Reached source reader)
    (left : reader.position < utf8Length source) :
    reader.Advances source (reader.round? source) := by
  obtain ⟨before, after, rfl, here⟩ := reached.exists_append
  obtain ⟨reading, agrees⟩ := exists_agrees here left
  generalize reader.round? (before ++ after) = round at agrees
  cases agrees with
  | failed error => trivial
  | refused taken => trivial
  | @moved _ _ next written taken whole present further =>
      have positive := utf8Length_pos present
      show reader.position < next.position
      omega
  | finished taken added plain =>
      refine ⟨after, ?_, plain, added⟩
      rw [here, dropBytes?_append]

/-- What the tokens of the rest of a source come to. -/
def takeRest (total : Nat) (assembly : Assembly) (rest : List Char) :
    Except FragmentError Assembly := do
  let (tokens, failure) := Token.scanRest total rest
  let next ← tokens.foldlM Assembly.take assembly
  match failure with
  | some error => .error error
  | none => .ok next

theorem takeRest_nil (total : Nat) (assembly : Assembly) :
    takeRest total assembly [] = .ok assembly := by
  rw [takeRest, Token.scanRest]
  rfl

theorem takeRest_of_readNext {total : Nat} {character : Char}
    {rest after : List Char} {read : List Token} (assembly : Assembly)
    (found : Token.readNext total character rest = .tokens read after) :
    takeRest total assembly (character :: rest) =
      read.foldlM Assembly.take assembly >>=
        fun next => takeRest total next after := by
  rw [takeRest, Token.scanRest_of_readNext found]
  simp only [takeRest, List.foldlM_append, bind_assoc]

theorem takeRest_of_failed {total : Nat} {character : Char}
    {rest : List Char} {error : FragmentError} (assembly : Assembly)
    (found : Token.readNext total character rest = .failed error) :
    takeRest total assembly (character :: rest) = .error error := by
  rw [takeRest, Token.scanRest, found]
  rfl

/-- The loop ends, with the result of the tokens. -/
theorem ends_takeRest (before after : List Char) (assembly : Assembly) :
    Reader.Ends (before ++ after) ⟨utf8Length before, assembly⟩
      (takeRest (utf8Length (before ++ after)) assembly after) := by
  induction length : after.length using Nat.strongRecOn
    generalizing before after assembly with
  | ind length induction =>
      subst length
      cases after with
      | nil =>
          rw [takeRest_nil]
          exact @Reader.Ends.read _ ⟨utf8Length before, assembly⟩ (by simp)
      | cons character rest =>
          have left : utf8Length before <
              utf8Length (before ++ character :: rest) := by
            rw [utf8Length_append]
            exact Nat.lt_add_of_pos_right
              (utf8Length_pos (List.cons_ne_nil _ _))
          have agrees := agrees_round? before rest assembly character
          generalize read : Token.readNext _ character rest = reading at agrees
          generalize made : Reader.round? _ _ = round at agrees
          cases agrees with
          | failed error =>
              rw [takeRest_of_failed assembly read]
              exact .failed left made
          | refused taken =>
              rw [takeRest_of_readNext assembly read, taken]
              exact .failed left made
          | @moved _ after next written taken whole present further =>
              rw [takeRest_of_readNext assembly read, taken]
              have shorter : after.length < (character :: rest).length := by
                have lengths := congrArg List.length whole
                have positive := List.length_pos_iff.mpr present
                rw [List.length_append] at lengths
                omega
              have later := induction _ shorter (before ++ written) after
                next.assembly rfl
              rw [List.append_assoc, ← whole, utf8Length_append, ← further]
                at later
              exact .moved left made later
          | finished taken added plain =>
              rw [takeRest_of_readNext assembly read, taken]
              change Reader.Ends _ _ (takeRest _ _ [])
              rw [takeRest_nil]
              exact .finished left made

end Loop

end WorkbookSite.Markup

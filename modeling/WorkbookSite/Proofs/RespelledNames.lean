import WorkbookSite.Markup.Fragment
import WorkbookSite.Proofs.FoldedCase
import WorkbookSite.Proofs.PrintedTokens
import WorkbookSite.Proofs.SpelledTokens

/-!
# Names in another case

Two sources that differ only in the case of the names in their tags stand for
the same fragment, or are refused for the same reason at the same place.
`Respelled` follows the tokens of the first source: a name of a tag or of an
attribute may have its ASCII letters in another case, and everything else,
attribute values, comments and the text of elements that are not read as markup
among it, is the same in both.
-/

namespace WorkbookSite.Markup

open Text (isBlank)
open CharacterReference (decode)

/-- An attribute section with its names in another case. -/
inductive AttributesRespelled : List Char → List Char → Prop where
  | nil : AttributesRespelled [] []
  | cons {blanks name other written value rest rest' : List Char}
      (apart : blanks ≠ [])
      (blank : ∀ character ∈ blanks, isBlank character = true)
      (named : name ≠ [])
      (inside : ∀ character ∈ name, isAttributeCharacter character = true)
      (letters : lowercase name = lowercase other)
      (valued : ValueSpelled written value)
      (later : AttributesRespelled rest rest') :
      AttributesRespelled (blanks ++ (name ++ (written ++ rest)))
        (blanks ++ (other ++ (written ++ rest')))

/-- A start tag after its opening bracket, with its names in another case, and
the rest after it: `rest` in one source and `rest'` in the other.  The
attributes are the whole attribute section, so that a slash that belongs to a
value does not count as the end of the tag. -/
inductive StartTagRespelled (rest rest' : List Char) :
    StartTag → List Char → List Char → Prop where
  | mk {name other attributes attributes' blanks : List Char}
      {selfClosing : Bool} (named : TagNameSpelled name)
      (letters : lowercase name = lowercase other)
      (listed : AttributesRespelled attributes attributes')
      (blank : ∀ character ∈ blanks, isBlank character = true)
      (whole : attributeSection
          (attributes ++ (blanks ++ (tagClosing selfClosing ++ rest))) =
        (attributes, blanks ++ (tagClosing selfClosing ++ rest))) :
      StartTagRespelled rest rest'
        ⟨String.ofList (lowercase name), readAttributes attributes,
          selfClosing⟩
        (name ++ (attributes ++ (blanks ++ (tagClosing selfClosing ++ rest))))
        (other ++
          (attributes' ++ (blanks ++ (tagClosing selfClosing ++ rest'))))

/-- No token but the bracket itself starts at a bracket before this. -/
def LeavesBracket (rest : List Char) : Prop :=
  ∀ character ∈ rest.head?,
    character.isAlpha = false ∧ character ≠ '!' ∧ character ≠ '/'

/-- Two sources differ only in the case of the names that are read in the
first one.  Where no token can be read any more, they are the same. -/
inductive Respelled : List Char → List Char → Prop where
  | same (rest : List Char) : Respelled rest rest
  | text {run rest rest' : List Char} (present : run ≠ [])
      (plain : '<' ∉ run) (ends : StartsMarkup rest)
      (later : Respelled rest rest') : Respelled (run ++ rest) (run ++ rest')
  | bracket {rest rest' : List Char}
      (alone : LeavesBracket rest)
      (later : Respelled rest rest') : Respelled ('<' :: rest) ('<' :: rest')
  | comment {body rest rest' : List Char} (inside : ¬ "-->".toList <:+: body)
      (later : Respelled rest rest') :
      Respelled ('<' :: '!' :: '-' :: '-' :: (body ++ ("-->".toList ++ rest)))
        ('<' :: '!' :: '-' :: '-' :: (body ++ ("-->".toList ++ rest')))
  | endTag {name other blanks rest rest' : List Char}
      (named : TagNameSpelled name)
      (letters : lowercase name = lowercase other)
      (blank : ∀ character ∈ blanks, isBlank character = true)
      (later : Respelled rest rest') :
      Respelled ('<' :: '/' :: (name ++ (blanks ++ '>' :: rest)))
        ('<' :: '/' :: (other ++ (blanks ++ '>' :: rest')))
  | startTag {tag : StartTag} {source source' rest rest' : List Char}
      (respelled : StartTagRespelled rest rest' tag source source')
      (plain : tag.Plain) (later : Respelled rest rest') :
      Respelled ('<' :: source) ('<' :: source')
  | body {tag : StartTag} {source source' body rest rest' : List Char}
      (respelled :
        StartTagRespelled (body ++ rest) (body ++ rest') tag source source')
      (notPlain : ¬ tag.Plain)
      (inside : ¬ '<' :: '/' :: tag.name.toList <:+: lowercase body)
      (ends : '<' :: '/' :: tag.name.toList <+: lowercase rest)
      (later : Respelled rest rest') :
      Respelled ('<' :: source) ('<' :: source')
  | unclosed {tag : StartTag} {source source' body : List Char}
      (respelled : StartTagRespelled body body tag source source')
      (notPlain : ¬ tag.Plain)
      (never : ¬ '<' :: '/' :: tag.name.toList <:+: lowercase body) :
      Respelled ('<' :: source) ('<' :: source')

section Letters

variable {name other : List Char}

theorem forall_of_letters {test : Char → Bool}
    (invariant : ∀ character : Char,
      test character.toLower = test character)
    (letters : lowercase name = lowercase other)
    (inside : ∀ character ∈ name, test character = true) :
    ∀ character ∈ other, test character = true := by
  have folded : ∀ character ∈ lowercase other, test character = true := by
    rw [← letters, lowercase, List.forall_mem_map]
    intro character listed
    rw [invariant]
    exact inside character listed
  rw [lowercase, List.forall_mem_map] at folded
  intro character listed
  rw [← invariant]
  exact folded character listed

theorem length_eq_of_letters (letters : lowercase name = lowercase other) :
    name.length = other.length := by
  simpa [lowercase] using congrArg List.length letters

theorem ne_nil_of_letters (letters : lowercase name = lowercase other)
    (present : name ≠ []) : other ≠ [] := by
  have lengths := length_eq_of_letters letters
  rw [← List.length_pos_iff] at present ⊢
  omega

theorem TagNameSpelled.of_letters (named : TagNameSpelled name)
    (letters : lowercase name = lowercase other) : TagNameSpelled other := by
  cases named with
  | @mk initial more letter inside =>
      cases other with
      | nil => cases letters
      | cons first others =>
          obtain ⟨same, later⟩ := List.cons.inj letters
          refine .mk ?_ (forall_of_letters isTagCharacter_toLower later inside)
          rw [← isAlpha_toLower, ← same, isAlpha_toLower, letter]

theorem forall_head_of_letters {condition : Char → Prop}
    (invariant : ∀ character : Char,
      condition character.toLower ↔ condition character)
    (letters : lowercase name = lowercase other)
    (first : ∀ character ∈ name.head?, condition character) :
    ∀ character ∈ other.head?, condition character := by
  have heads : name.head?.map Char.toLower = other.head?.map Char.toLower := by
    rw [← List.head?_map, ← List.head?_map]
    exact congrArg List.head? letters
  intro character here
  rw [Option.mem_def.mp here, Option.map_some] at heads
  obtain ⟨initial, there, same⟩ := Option.map_eq_some_iff.mp heads
  rw [← invariant, ← same, invariant]
  exact first initial there

theorem StartsMarkup.of_letters (markup : StartsMarkup name)
    (letters : lowercase name = lowercase other) : StartsMarkup other :=
  forall_head_of_letters (fun _ => toLower_eq_iff (by decide)) letters markup

theorem LeavesBracket.of_letters (alone : LeavesBracket name)
    (letters : lowercase name = lowercase other) : LeavesBracket other := by
  apply forall_head_of_letters _ letters alone
  intro character
  rw [isAlpha_toLower, Ne, toLower_eq_iff (by decide), Ne,
    toLower_eq_iff (by decide)]

theorem utf8Size_toLower (character : Char) :
    character.toLower.utf8Size = character.utf8Size := by
  apply toLower_invariant Char.utf8Size 1
  intro other letter
  rw [Char.utf8Size_eq_one_iff]
  simp [Char.isAlpha, Char.isUpper, Char.isLower, UInt32.le_iff_toNat_le]
    at letter ⊢
  omega

theorem utf8Length_of_letters (letters : lowercase name = lowercase other) :
    utf8Length name = utf8Length other := by
  have folded : ∀ text : List Char,
      utf8Length (lowercase text) = utf8Length text := by
    intro text
    rw [utf8Length, lowercase, List.foldl_map, utf8Length]
    simp only [utf8Size_toLower]
  rw [← folded name, letters, folded other]

end Letters

theorem AttributesRespelled.letters {text other : List Char}
    (respelled : AttributesRespelled text other) :
    lowercase text = lowercase other := by
  induction respelled with
  | nil => rfl
  | cons apart blank named inside letters valued later induction =>
      simp only [lowercase, List.map_append] at letters induction ⊢
      rw [letters, induction]

/-- Both sections list the same attributes. -/
theorem AttributesRespelled.spelled {text other : List Char}
    (respelled : AttributesRespelled text other) :
    ∃ pairs, AttributesSpelled text pairs ∧ AttributesSpelled other pairs := by
  induction respelled with
  | nil => exact ⟨[], .nil, .nil⟩
  | cons apart blank named inside letters valued later induction =>
      obtain ⟨pairs, here, there⟩ := induction
      have first := AttributesSpelled.cons apart blank named inside valued here
      have second := AttributesSpelled.cons apart blank
        (ne_nil_of_letters letters named)
        (forall_of_letters isAttributeCharacter_toLower_eq letters inside)
        valued there
      rw [← letters] at second
      exact ⟨_, first, second⟩

/-- An attribute section ends at the same place in another case. -/
theorem attributeSection_of_letters {text other rest rest' : List Char}
    (letters : lowercase text = lowercase other)
    (restLetters : lowercase rest = lowercase rest')
    (whole : attributeSection (text ++ rest) = (text, rest)) :
    attributeSection (other ++ rest') = (other, rest') := by
  have folded := attributeSection_lowercase (text ++ rest)
  have same : lowercase (text ++ rest) = lowercase (other ++ rest') := by
    simp only [lowercase, List.map_append] at letters restLetters ⊢
    rw [letters, restLetters]
  rw [same, attributeSection_lowercase, whole] at folded
  have taken : (attributeSection (other ++ rest')).1.length = other.length := by
    rw [← length_eq_of_letters letters]
    exact length_eq_of_letters (Prod.mk.inj folded).1
  obtain ⟨first, second⟩ := List.append_inj
    (attributeSection_append (other ++ rest')) taken
  exact Prod.ext first second

namespace StartTagRespelled

variable {tag : StartTag} {source source' rest rest' : List Char}

theorem letters (respelled : StartTagRespelled rest rest' tag source source')
    (restLetters : lowercase rest = lowercase rest') :
    lowercase source = lowercase source' := by
  cases respelled with
  | mk named letters listed blank whole =>
      have attributes := listed.letters
      simp only [lowercase, List.map_append]
        at letters attributes restLetters ⊢
      rw [letters, attributes, restLetters]

/-- The same tag is read in both sources. -/
theorem read (respelled : StartTagRespelled rest rest' tag source source')
    (restLetters : lowercase rest = lowercase rest') :
    startTag? source = some (tag, rest) ∧
      startTag? source' = some (tag, rest') := by
  cases respelled with
  | @mk name other attributes attributes' blanks selfClosing named letters
      listed blank whole =>
      obtain ⟨pairs, spelled, spelled'⟩ := listed.spelled
      have after : lowercase (blanks ++ (tagClosing selfClosing ++ rest)) =
          lowercase (blanks ++ (tagClosing selfClosing ++ rest')) := by
        simp only [lowercase, List.map_append] at restLetters ⊢
        rw [restLetters]
      have whole' := attributeSection_of_letters listed.letters after whole
      rw [spelled.readAttributes_eq]
      refine ⟨named.startTag?_append spelled blank whole, ?_⟩
      rw [letters]
      exact (named.of_letters letters).startTag?_append spelled' blank whole'

end StartTagRespelled

theorem Respelled.letters {source other : List Char}
    (respelled : Respelled source other) :
    lowercase source = lowercase other := by
  induction respelled with
  | same rest => rfl
  | text present plain ends later induction =>
      simp only [lowercase, List.map_append] at induction ⊢
      rw [induction]
  | bracket alone later induction =>
      simp only [lowercase, List.map_cons] at induction ⊢
      rw [induction]
  | comment inside later induction =>
      simp only [lowercase, List.map_cons, List.map_append] at induction ⊢
      rw [induction]
  | endTag named letters blank later induction =>
      simp only [lowercase, List.map_cons, List.map_append]
        at letters induction ⊢
      rw [letters, induction]
  | startTag respelled plain later induction =>
      exact congrArg ('<' :: ·) (respelled.letters induction)
  | @body _ _ _ body _ _ respelled notPlain inside ends later induction =>
      have rest := congrArg (lowercase body ++ ·) induction
      simp only [lowercase, ← List.map_append] at rest
      exact congrArg ('<' :: ·) (respelled.letters rest)
  | unclosed respelled notPlain never =>
      exact congrArg ('<' :: ·) (respelled.letters rfl)

section Scanning

variable {tag : StartTag} {source body rest : List Char}

theorem scans_bracket (total : Nat)
    (alone : LeavesBracket rest) :
    Scans total ('<' :: rest) [.text "<"] rest := by
  apply Token.scanRest_of_readNext
  rw [Token.readNext, if_pos rfl, Token.readMarkup.eq_def]
  cases rest with
  | nil => rfl
  | cons initial more =>
      obtain ⟨noLetter, noMark, noSlash⟩ := alone initial rfl
      split
      · rename_i same
        exact absurd (List.cons.inj same).1 noMark
      · rename_i same
        exact absurd (List.cons.inj same).1 noSlash
      · contradiction
      · rename_i same
        obtain ⟨rfl, rfl⟩ := List.cons.inj same
        simp [noLetter, noMark]

theorem TagNameSpelled.scans_endTag {name blanks : List Char}
    (named : TagNameSpelled name)
    (blank : ∀ character ∈ blanks, isBlank character = true) (total : Nat)
    (rest : List Char) :
    Scans total ('<' :: '/' :: (name ++ (blanks ++ '>' :: rest)))
      [.endTag (String.ofList (lowercase name))] rest := by
  apply Token.scanRest_of_readNext
  rw [Token.readNext, if_pos rfl, Token.readMarkup, Token.readEndTag,
    named.endTag?_append blank]

theorem readNext_of_startTag? (total : Nat)
    (read : startTag? source = some (tag, rest)) :
    Token.readNext total '<' source =
      if tag.selfClosing || isVoid tag.name || textMode tag.name == .normal then
        .tokens [.startTag tag] rest
      else Token.readBody tag rest := by
  have opened : ∃ initial more, source = initial :: more ∧
      initial.isAlpha = true := by
    obtain ⟨⟨name, after⟩, named, -⟩ := Option.bind_eq_some_iff.mp read
    obtain ⟨rfl, spelled⟩ := TagNameSpelled.of_tagName? named
    cases spelled with
    | mk letter inside => exact ⟨_, _, rfl, letter⟩
  obtain ⟨initial, more, rfl, letter⟩ := opened
  obtain ⟨offset, started⟩ := readNext_of_isAlpha total more letter
  rw [started, Token.readStartTag, read]

theorem StartTag.plain_iff :
    tag.Plain ↔ (tag.selfClosing || isVoid tag.name ||
      textMode tag.name == .normal) = true := by
  simp only [Plain, Bool.or_eq_true, beq_iff_eq, or_assoc]

theorem scans_startTag (total : Nat)
    (read : startTag? source = some (tag, rest)) (plain : tag.Plain) :
    Scans total ('<' :: source) [.startTag tag] rest := by
  apply Token.scanRest_of_readNext
  rw [readNext_of_startTag? total read, if_pos (StartTag.plain_iff.mp plain)]

theorem scans_body (total : Nat)
    (read : startTag? source = some (tag, body ++ rest))
    (notPlain : ¬ tag.Plain)
    (inside : ¬ '<' :: '/' :: tag.name.toList <:+: lowercase body)
    (ends : '<' :: '/' :: tag.name.toList <+: lowercase rest) :
    Scans total ('<' :: source) (.startTag tag :: bodyTokens tag.name body)
      rest := by
  have single := (fits_of_startTag? read).1.less_notMem
  have split := (splitWhere_endTag_iff body rest single).mpr ⟨ends, inside⟩
  apply Token.scanRest_of_readNext
  rw [readNext_of_startTag? total read,
    if_neg (notPlain ∘ StartTag.plain_iff.mpr), Token.readBody, split]
  by_cases none : body = []
  · simp [none, bodyTokens]
  · simp [none, bodyTokens]

theorem scanRest_unclosed (total : Nat)
    (read : startTag? source = some (tag, body)) (notPlain : ¬ tag.Plain)
    (never : ¬ '<' :: '/' :: tag.name.toList <:+: lowercase body) :
    Token.scanRest total ('<' :: source) = ([], some (.unclosed tag.name)) := by
  have split : splitWhere (startsEndTag tag.name) body = none := by
    rw [Option.eq_none_iff_forall_ne_some]
    rintro ⟨before, after⟩ found
    obtain ⟨rfl, here, -⟩ := splitWhere_eq_some_iff.mp found
    obtain ⟨more, same⟩ := startsEndTag_iff.mp here
    apply never
    refine ⟨lowercase before, more, ?_⟩
    rw [List.append_assoc, same, lowercase, lowercase, lowercase,
      List.map_append]
  rw [Token.scanRest, readNext_of_startTag? total read,
    if_neg (notPlain ∘ StartTag.plain_iff.mpr), Token.readBody, split]

theorem scanRest_congr {total : Nat} {source source' rest rest' : List Char}
    {tokens : List Token} (scans : Scans total source tokens rest)
    (scans' : Scans total source' tokens rest')
    (same : Token.scanRest total rest = Token.scanRest total rest') :
    Token.scanRest total source = Token.scanRest total source' := by
  rw [scans, scans', same]

/-- Both sources are scanned to the same tokens. -/
theorem Respelled.scanRest_eq {source other : List Char}
    (respelled : Respelled source other) (total : Nat) :
    Token.scanRest total source = Token.scanRest total other := by
  induction respelled with
  | same rest => rfl
  | text present plain ends later induction =>
      exact scanRest_congr (scans_run total present plain ends)
        (scans_run total present plain (ends.of_letters later.letters))
        induction
  | bracket alone later induction =>
      exact scanRest_congr (scans_bracket total alone)
        (scans_bracket total (alone.of_letters later.letters)) induction
  | comment inside later induction =>
      exact scanRest_congr (scans_commentBody total _ inside)
        (scans_commentBody total _ inside) induction
  | endTag named letters blank later induction =>
      have scans := (named.of_letters letters).scans_endTag blank total
      rw [← letters] at scans
      exact scanRest_congr (named.scans_endTag blank total _) (scans _)
        induction
  | startTag respelled plain later induction =>
      obtain ⟨read, read'⟩ := respelled.read later.letters
      exact scanRest_congr (scans_startTag total read plain)
        (scans_startTag total read' plain) induction
  | @body _ _ _ body rest rest' respelled notPlain inside ends later
      induction =>
      have after := congrArg (lowercase body ++ ·) later.letters
      simp only [lowercase, ← List.map_append] at after
      obtain ⟨read, read'⟩ := respelled.read after
      have ends' := ends
      rw [later.letters] at ends'
      exact scanRest_congr (scans_body total read notPlain inside ends)
        (scans_body total read' notPlain inside ends') induction
  | unclosed respelled notPlain never =>
      obtain ⟨read, read'⟩ := respelled.read rfl
      rw [scanRest_unclosed total read notPlain never,
        scanRest_unclosed total read' notPlain never]

end Scanning

/-- The case of the names in a fragment does not matter: in any context that is
read as markup, both sources stand for the same nodes, or are refused with the
same error, its names and its offset included. -/
theorem Fragment.parse_of_respelled {source other context : String}
    (normal : textMode context = .normal)
    (respelled : Respelled source.toList other.toList) :
    Fragment.parse source context = Fragment.parse other context := by
  have scanned : Token.scan source.toList = Token.scan other.toList := by
    rw [Token.scan, Token.scan, utf8Length_of_letters respelled.letters]
    exact respelled.scanRest_eq _
  simp only [Fragment.parse, normal, Fragment.parseMarkup, scanned]

/-- A paragraph with an attribute, a text, and a script with a text that would
be a tag elsewhere. -/
def capitalSource : String := "<P Id='A'>b<SCRIPT><B></Script ></P>"

def smallSource : String := "<p iD='A'>b<Script><B></sCRIPT ></p>"

theorem respelled_capitalSource :
    Respelled capitalSource.toList smallSource.toList := by
  have space : ∀ character ∈ [' '], isBlank character = true := by
    simp [isBlank]
  have letters : lowercase "Script".toList = lowercase "SCRIPT".toList := by
    decide +kernel
  have mixed : lowercase "Script".toList = lowercase "sCRIPT".toList := by
    decide +kernel
  have paragraph : TagNameSpelled ['P'] := .mk (by decide) (by simp)
  have script : TagNameSpelled "Script".toList :=
    (@TagNameSpelled.of_tagName? "Script".toList _ [] (by decide +kernel)).2
  have ended := Respelled.endTag paragraph
    (by decide : lowercase ['P'] = lowercase ['p']) (List.forall_mem_nil _)
    (.same [])
  have scriptEnded := Respelled.endTag script mixed space ended
  have scriptTag := @StartTagRespelled.mk
    ("<B>".toList ++ "</Script ></P>".toList)
    ("<B>".toList ++ "</sCRIPT ></p>".toList)
    "SCRIPT".toList "Script".toList [] [] [] false
    (script.of_letters letters) letters.symm .nil (List.forall_mem_nil _)
    (attributeSection_eq_nil (attribute?_tagClosing false _))
  have notPlain : ¬ StartTag.Plain ⟨String.ofList
      (lowercase "SCRIPT".toList), readAttributes [], false⟩ := by
    rw [StartTag.plain_iff]
    decide +kernel
  have scripted := Respelled.body scriptTag notPlain (by decide +kernel)
    (by decide +kernel) scriptEnded
  have texted := Respelled.text (by decide : ['b'] ≠ []) (by decide)
    (startsMarkup_cons _) scripted
  have valued : ValueSpelled ['=', '\'', 'A', '\''] ['A'] :=
    @ValueSpelled.quoted [] [] ['A'] '\'' (List.forall_mem_nil _)
      (List.forall_mem_nil _) (.inr rfl) (by decide)
  have listed := AttributesRespelled.cons (by decide : [' '] ≠ []) space
    (by decide : ['I', 'd'] ≠ []) (by simp [isAttributeCharacter, isBlank])
    (by decide : lowercase ['I', 'd'] = lowercase ['i', 'D']) valued .nil
  have opened := @StartTagRespelled.mk
    ('b' :: "<SCRIPT><B></Script ></P>".toList)
    ('b' :: "<Script><B></sCRIPT ></p>".toList) ['P'] ['p'] _ _ [] false
    paragraph (by decide) listed (List.forall_mem_nil _) (by decide +kernel)
  have whole := Respelled.startTag opened
    (StartTag.plain_iff.mpr (by decide +kernel)) texted
  refine cast (congrArg₂ Respelled ?_ ?_) whole <;> decide +kernel

theorem parse_capitalSource :
    textMode "div" = .normal ∧
      Respelled capitalSource.toList smallSource.toList ∧
      Fragment.parse capitalSource "div" = Fragment.parse smallSource "div" :=
  ⟨by decide, respelled_capitalSource,
    Fragment.parse_of_respelled (by decide) respelled_capitalSource⟩

end WorkbookSite.Markup

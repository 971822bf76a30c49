import WorkbookSite.Proofs.AttributeGrammar

/-!
# Matched start tags

Where the pattern of a start tag matches, the attributes that are read are those
of the one decomposition of its attribute section.  A slash before the closing
bracket may be a part of the last value as well as the end of the tag: it is a
part of the value wherever it can be.
-/

namespace WorkbookSite.Markup

open Text (Position isBlank)

/-- A start tag up to the characters `value` of a value without quotes.  There
may be none of them so far. -/
inductive BareValueBefore (value : List Char) : List Char → Prop where
  | mk {tagName blanks name before after : List Char}
      {spans : List AttributeSpan} (named : TagNameSpelled tagName)
      (accepted : ∀ span ∈ spans, span.Accepted)
      (last : AttributeSpan.Accepted ⟨blanks, name, .absent⟩)
      (beforeBlank : ∀ character ∈ before, isBlank character = true)
      (afterBlank : ∀ character ∈ after, isBlank character = true)
      (inside : ∀ character ∈ value, isBareCharacter character = true) :
      BareValueBefore value ('<' :: (tagName ++
        (spans.flatMap AttributeSpan.text ++
          AttributeSpan.text ⟨blanks, name, .bare before after value⟩)))

section Slashes

variable {value before : List Char}

/-- A tag is matched as it is written, with its bracket right behind its
attributes. -/
theorem Decomposes.match?_startTagPattern {tagName attributes : List Char}
    {spans : List AttributeSpan} (decomposes : Decomposes attributes spans)
    (named : TagNameSpelled tagName) (rest : List Char) :
    startTagPattern.match? ('<' :: (tagName ++ (attributes ++ '>' :: rest))) =
      some ⟨rest, [(3, []), (2, attributes), (1, tagName)]⟩ := by
  have stops : ∀ character ∈ (attributes ++ '>' :: rest).head?,
      isTagCharacter character = false :=
    isTagCharacter_head_spelled decomposes.spelled (List.forall_mem_nil _)
      false rest
  have taken := decomposes.attributeSection_append (.bracket rest)
    (attribute?_tagClosing false rest)
  have ended : startTagEnd? ('>' :: rest) = some (false, rest) :=
    startTagEnd?_tagClosing false rest
  rw [Markup.match?_startTagPattern, named.tagName?_append stops,
    Option.bind_some, taken, ended]
  rfl

/-- A slash that follows a value without quotes, or the sign before it, is read
as a part of the value. -/
theorem BareValueBefore.match?_slash (inValue : BareValueBefore value before)
    (rest : List Char) :
    ∃ tagName attributes spans last signBefore signAfter,
      Decomposes attributes (spans ++ [last]) ∧
        last.value = .bare signBefore signAfter (value ++ ['/']) ∧
        startTagPattern.match? (before ++ (['/', '>'] ++ rest)) =
          some ⟨rest, [(3, []), (2, attributes), (1, tagName)]⟩ := by
  obtain @⟨tagName, blanks, name, signBefore, signAfter, spans, named, accepted,
    last, beforeBlank, afterBlank, inside⟩ := inValue
  have bare : ∀ character ∈ value ++ ['/'],
      isBareCharacter character = true := by
    intro character listed
    rcases List.mem_append.mp listed with here | slash
    · exact inside character here
    · rw [List.mem_singleton.mp slash]
      decide
  let whole : AttributeSpan :=
    ⟨blanks, name, .bare signBefore signAfter (value ++ ['/'])⟩
  have wholeAccepted : whole.Accepted :=
    ⟨last.apart, last.blank, last.named, last.inside,
      beforeBlank, afterBlank, by simp, bare⟩
  have decomposes : Decomposes
      (spans.flatMap AttributeSpan.text ++ whole.text) (spans ++ [whole]) := by
    refine ⟨by simp, fun span listed => ?_⟩
    rcases List.mem_append.mp listed with here | single
    · exact accepted span here
    · rw [List.mem_singleton.mp single]
      exact wholeAccepted
  refine ⟨tagName, _, spans, whole, signBefore, signAfter, decomposes, rfl, ?_⟩
  rw [← decomposes.match?_startTagPattern named rest]
  simp [whole, AttributeSpan.text, WrittenValue.text]

theorem exists_append_last {left right : List Char} {last : Char}
    (present : right ≠ []) (same : left ++ right = before ++ [last]) :
    ∃ front, right = front ++ [last] ∧ before = left ++ front := by
  obtain rfl | ⟨front, last, rfl⟩ := List.eq_nil_or_concat' right
  · exact absurd rfl present
  · rw [← List.append_assoc] at same
    obtain ⟨first, second⟩ := List.append_inj' same rfl
    cases second
    exact ⟨front, rfl, first.symm⟩

theorem TagNameSpelled.ne_nil {tagName : List Char}
    (named : TagNameSpelled tagName) : tagName ≠ [] := by
  cases named
  exact List.cons_ne_nil _ _

theorem TagNameSpelled.slash_notMem {tagName : List Char}
    (named : TagNameSpelled tagName) : '/' ∉ tagName := by
  cases named with
  | mk letter inside =>
      rintro (_ | ⟨_, listed⟩)
      · exact absurd letter (by decide)
      · exact absurd (inside '/' listed) (by decide)

/-- A slash right behind the attributes of a tag is the end of a value without
quotes. -/
theorem Decomposes.bareValueBefore {tagName attributes : List Char}
    {spans : List AttributeSpan} (decomposes : Decomposes attributes spans)
    (named : TagNameSpelled tagName)
    (slash : '<' :: (tagName ++ attributes) = before ++ ['/']) :
    ∃ value, BareValueBefore value before := by
  obtain ⟨rfl, accepted⟩ := decomposes
  obtain rfl | ⟨others, ⟨blanks, name, form⟩, rfl⟩ :=
    List.eq_nil_or_concat' spans
  · have ends : ['<'] ++ tagName = before ++ ['/'] := by simpa using slash
    obtain ⟨front, rfl, -⟩ := exists_append_last named.ne_nil ends
    exact absurd (by simp) named.slash_notMem
  · have last := accepted ⟨blanks, name, form⟩ (by simp)
    cases form with
    | absent =>
        have ends : '<' :: (tagName ++ (others.flatMap AttributeSpan.text ++
            blanks)) ++ name = before ++ ['/'] := by
          simpa [AttributeSpan.text, WrittenValue.text] using slash
        obtain ⟨front, rfl, -⟩ := exists_append_last last.named ends
        exact absurd (last.inside '/' (by simp)) (by decide)
    | quoted signBefore signAfter quote value =>
        have ends : '<' :: (tagName ++ (others.flatMap AttributeSpan.text ++
            (blanks ++ (name ++ (signBefore ++
              '=' :: (signAfter ++ quote :: value)))))) ++ [quote] =
            before ++ ['/'] := by
          simpa [AttributeSpan.text, WrittenValue.text] using slash
        obtain ⟨-, same⟩ := List.append_inj' ends rfl
        obtain ⟨-, -, isQuote, -⟩ := last.valued
        cases same
        exact absurd isQuote (by decide)
    | bare signBefore signAfter value =>
        obtain ⟨beforeBlank, afterBlank, present, inside⟩ := last.valued
        have ends : '<' :: (tagName ++ (others.flatMap AttributeSpan.text ++
            (blanks ++ (name ++ (signBefore ++ '=' :: signAfter))))) ++ value =
            before ++ ['/'] := by
          simpa [AttributeSpan.text, WrittenValue.text] using slash
        obtain ⟨front, rfl, rfl⟩ := exists_append_last present ends
        have noValue : AttributeSpan.Accepted ⟨blanks, name, .absent⟩ :=
          ⟨last.apart, last.blank, last.named, last.inside, trivial⟩
        have inValue := BareValueBefore.mk named
          (fun span listed => accepted span (List.mem_append_left _ listed))
          noValue beforeBlank afterBlank
          (fun character listed =>
            inside character (List.mem_append_left _ listed))
        exact ⟨front, by
          simpa [AttributeSpan.text, WrittenValue.text] using inValue⟩

end Slashes

/-- What stands at a match of the pattern of a start tag, and what is read
there.  The attributes of the section, in the form in which the pattern takes
them, are `spans`. -/
structure StartTagReading (source : List Char) (found : Position)
    (tag : StartTag) (spans : List AttributeSpan) : Prop where
  accepted : startTagPattern.Accepts (Position.taken ⟨source, []⟩ found)
  /-- The tag is matched whatever follows it. -/
  closed : ∀ rest,
    (startTagPattern.match? (Position.taken ⟨source, []⟩ found ++ rest)).isSome
  read : startTag? source.tail = some (tag, found.rest)
  /-- The texts with a decomposition are those that the pattern takes as an
  attribute section. -/
  grammar : ∀ text, sectionPattern.Accepts text ↔
    ∃ others, Decomposes text others
  decomposes : Decomposes (groupText found.groups 2) spans
  unique : ∀ others, Decomposes (groupText found.groups 2) others →
    others = spans
  /-- The other pattern finds one attribute for each of them, in their order. -/
  searched : ((attributePattern true).findAll (groupText found.groups 2)).map
    matchedAttribute = spans.map AttributeSpan.pair
  attributes : readAttributes (groupText found.groups 2) =
    spans.map AttributeSpan.pair
  listed : tag.attributes = spans.map AttributeSpan.pair
  /-- A slash before the closing bracket that follows a value without quotes, or
  the sign before one, is the end of the last value. -/
  valueSlash : ∀ before value,
    Position.taken ⟨source, []⟩ found = before ++ ['/', '>'] →
      BareValueBefore value before → tag.selfClosing = false ∧
        ∃ others last signBefore signAfter, spans = others ++ [last] ∧
          last.value = .bare signBefore signAfter (value ++ ['/'])
  /-- Any other slash before the closing bracket closes the element. -/
  tagSlash : ∀ before,
    Position.taken ⟨source, []⟩ found = before ++ ['/', '>'] →
      (¬ ∃ value, BareValueBefore value before) → tag.selfClosing = true

section Reading

variable {source : List Char} {found : Position}

/-- A match of the pattern is written out by its groups. -/
theorem exists_written_of_match?
    (matched : startTagPattern.match? source = some found) :
    ∃ tagName attributes spans blanks selfClosing,
      TagNameSpelled tagName ∧ Decomposes attributes spans ∧
        (∀ character ∈ blanks, isBlank character = true) ∧
        source = '<' :: (tagName ++ (attributes ++
          (blanks ++ tagClosing selfClosing))) ++ found.rest ∧
        found.groups = [(3, if selfClosing then ['/'] else []),
          (2, attributes), (1, tagName)] := by
  cases source with
  | nil =>
      rw [match?_startTagPattern_of_head (by simp)] at matched
      cases matched
  | cons initial more =>
      by_cases opens : initial = '<'
      · subst opens
        rw [match?_startTagPattern, Option.bind_eq_some_iff] at matched
        obtain ⟨⟨tagName, afterName⟩, named, rest⟩ := matched
        obtain ⟨⟨selfClosing, after⟩, ended, rfl⟩ :=
          Option.map_eq_some_iff.mp rest
        obtain ⟨rfl, spelled⟩ := TagNameSpelled.of_tagName? named
        obtain ⟨blanks, blank, left⟩ := startTagEnd?_spelled ended
        obtain ⟨spans, decomposes⟩ :=
          (attributesSpelled_attributeSection afterName).exists_decomposes
        have whole := attributeSection_append afterName
        rw [left] at whole
        refine ⟨tagName, _, spans, blanks, selfClosing, spelled, decomposes,
          blank, ?_, rfl⟩
        simp only [List.cons_append, List.append_assoc, whole]
      · rw [match?_startTagPattern_of_head (by simpa using opens)] at matched
        cases matched

/-- A slash right before the bracket of a tag that is not closed by it is the
end of a value without quotes. -/
theorem Decomposes.bareValueBefore_blanks
    {tagName attributes blanks before : List Char} {spans : List AttributeSpan}
    (decomposes : Decomposes attributes spans)
    (named : TagNameSpelled tagName)
    (blank : ∀ character ∈ blanks, isBlank character = true)
    (slash : '<' :: (tagName ++ (attributes ++ (blanks ++ ['>']))) =
      before ++ ['/', '>']) :
    ∃ value, BareValueBefore value before := by
  have ends : '<' :: (tagName ++ attributes) ++ blanks = before ++ ['/'] := by
    have whole : '<' :: (tagName ++ attributes) ++ blanks ++ ['>'] =
        before ++ ['/'] ++ ['>'] := by
      simpa using slash
    exact List.append_cancel_right whole
  by_cases absent : blanks = []
  · subst absent
    rw [List.append_nil] at ends
    exact decomposes.bareValueBefore named ends
  · obtain ⟨front, rfl, -⟩ := exists_append_last absent ends
    exact absurd (blank '/' (by simp)) (by decide)

/-- Where the pattern of a start tag matches, its attribute section has one
decomposition, and the attributes that are read are those of the
decomposition. -/
theorem exists_startTagReading
    (matched : startTagPattern.match? source = some found) :
    ∃ tag spans, StartTagReading source found tag spans := by
  obtain ⟨tagName, attributes, spans, blanks, selfClosing, named, decomposes,
    blank, written, groups⟩ := exists_written_of_match? matched
  have attributesGroup : groupText found.groups 2 = attributes := by
    simp [groupText, groups, List.lookup]
  have closes : (matchedTag found.groups).selfClosing = selfClosing := by
    cases selfClosing <;> simp [matchedTag, groupText, groups, List.lookup]
  have taken : Position.taken ⟨source, []⟩ found =
      '<' :: (tagName ++ (attributes ++ (blanks ++ tagClosing selfClosing))) :=
    Position.taken_eq written
  have unique : ∀ others, Decomposes attributes others → others = spans :=
    fun others decomposes' => decomposes.unique decomposes'
  have pairs := decomposes.spelled.readAttributes_eq
  have accepted : startTagPattern.Accepts
      (Position.taken ⟨source, []⟩ found) := by
    obtain ⟨text, accepted, whole⟩ :=
      Text.Pattern.accepts_of_mem_ways (List.mem_of_mem_head? matched)
    rwa [Position.taken_eq whole]
  refine ⟨matchedTag found.groups, spans, accepted, ?closed, ?read,
    fun _ => accepts_sectionPattern, ?decomposes, ?unique, ?searched,
    ?attributes, ?listed, ?valueSlash, ?tagSlash⟩
  case closed =>
    intro rest
    exact Text.Pattern.isSome_match?_iff.mpr ⟨_, rest, accepted, rfl⟩
  case read =>
    rw [startTag?_eq_match?]
    rw [written] at matched ⊢
    rw [List.cons_append] at matched ⊢
    rw [List.tail_cons, matched, Option.map_some]
  case decomposes => rwa [attributesGroup]
  case unique => rwa [attributesGroup]
  case searched => rw [← readAttributes_eq_findAll, attributesGroup, pairs]
  case attributes => rw [attributesGroup, pairs]
  case listed => rw [matchedTag, attributesGroup, pairs]
  case valueSlash =>
    intro before value slash inValue
    obtain ⟨tagName', attributes', others, last, signBefore, signAfter,
      decomposes', lastValue, matched'⟩ := inValue.match?_slash found.rest
    have same : source = before ++ (['/', '>'] ++ found.rest) := by
      rw [written, ← taken, slash, List.append_assoc]
    rw [← same, matched, Option.some.injEq] at matched'
    have sameGroups := congrArg Position.groups matched'
    simp only [groups, List.cons.injEq, Prod.mk.injEq, true_and] at sameGroups
    obtain ⟨noSlash, rfl, -⟩ := sameGroups
    refine ⟨?_, others, last, signBefore, signAfter,
      (unique _ decomposes').symm, lastValue⟩
    rw [closes]
    cases selfClosing with
    | false => rfl
    | true => cases noSlash
  case tagSlash =>
    intro before slash noValue
    rw [closes]
    cases selfClosing with
    | true => rfl
    | false =>
        rw [taken] at slash
        exact absurd (decomposes.bareValueBefore_blanks named blank slash)
          noValue

/-- A link with a quoted value and a value without quotes, and a text. -/
def linkTag : List Char := "<A HREF='x=y' b = c/>d".toList

/-- The slash is the end of the value without quotes. -/
theorem exists_startTagReading_linkTag :
    ∃ found, startTagPattern.match? linkTag = some found ∧
      ∃ tag spans, tag = ⟨"a", [("href", "x=y"), ("b", "c/")], false⟩ ∧
        StartTagReading linkTag found tag spans := by
  have matched : startTagPattern.match? linkTag = some
      ⟨['d'], [(3, []), (2, " HREF='x=y' b = c/".toList), (1, ['A'])]⟩ :=
    (match?_startTagPattern "A HREF='x=y' b = c/>d".toList).trans
      (by decide +kernel)
  obtain ⟨tag, spans, reading⟩ := exists_startTagReading matched
  have shown : startTag? linkTag.tail =
      some (⟨"a", [("href", "x=y"), ("b", "c/")], false⟩, ['d']) := by
    decide +kernel
  have same := Option.some.inj (reading.read.symm.trans shown)
  exact ⟨_, matched, tag, spans, congrArg Prod.fst same, reading⟩

theorem BareValueBefore.exists_append {value text : List Char}
    (inValue : BareValueBefore value text) :
    (∀ character ∈ value, isBareCharacter character = true) ∧
      ∃ front, text = front ++ value := by
  obtain @⟨tagName, blanks, name, signBefore, signAfter, spans, named, accepted,
    last, beforeBlank, afterBlank, inside⟩ := inValue
  refine ⟨inside, '<' :: (tagName ++ (spans.flatMap AttributeSpan.text ++
    (blanks ++ (name ++ (signBefore ++ '=' :: signAfter))))), ?_⟩
  simp [AttributeSpan.text, WrittenValue.text]

/-- The slash follows no value without quotes here, for it is one. -/
theorem slash_after_sign :
    ∃ found, startTagPattern.match? "<a b=/>".toList = some found ∧
      Position.taken ⟨"<a b=/>".toList, []⟩ found =
        "<a b=".toList ++ ['/', '>'] ∧
      (¬ ∃ value, value ≠ [] ∧ BareValueBefore value "<a b=".toList) ∧
      startTag? "a b=/>".toList = some (⟨"a", [("b", "/")], false⟩, []) := by
  have matched : startTagPattern.match? "<a b=/>".toList = some
      ⟨[], [(3, []), (2, " b=/".toList), (1, ['a'])]⟩ :=
    (match?_startTagPattern "a b=/>".toList).trans (by decide +kernel)
  refine ⟨_, matched, by decide, ?_, by decide +kernel⟩
  rintro ⟨value, present, inValue⟩
  obtain ⟨inside, front, written⟩ := inValue.exists_append
  have ends : front ++ value = "<a b".toList ++ ['='] := by
    rw [← written]
    decide
  obtain ⟨more, rfl, -⟩ := exists_append_last present ends
  exact absurd (inside '=' (by simp)) (by decide)

end Reading

end WorkbookSite.Markup

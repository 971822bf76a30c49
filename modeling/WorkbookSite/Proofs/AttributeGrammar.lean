import WorkbookSite.Proofs.TagPatterns

/-!
# Decomposed attribute sections

The attribute section of a start tag, as the data that the pattern of a tag goes
through: for each attribute the blanks before it, its name, and the form of its
value.  A text has such a decomposition if and only if the pattern stands for
it, and it has no other one.
-/

namespace WorkbookSite.Markup

open Text (Pattern Position isBlank)
open CharacterReference (decode)

/-- How the value of an attribute is written.  The blanks are those before and
after its equals sign. -/
inductive WrittenValue where
  | absent
  | quoted (before after : List Char) (quote : Char) (value : List Char)
  | bare (before after value : List Char)
deriving DecidableEq, Repr

namespace WrittenValue

def text : WrittenValue → List Char
  | absent => []
  | quoted before after quote value =>
      before ++ '=' :: (after ++ quote :: (value ++ [quote]))
  | bare before after value => before ++ '=' :: (after ++ value)

/-- The value before decoding. -/
def value? : WrittenValue → Option (List Char)
  | absent => none
  | quoted _ _ _ value => some value
  | bare _ _ value => some value

/-- The pattern of a tag takes the value as it is written. -/
def Accepted : WrittenValue → Prop
  | absent => True
  | quoted before after quote value =>
      (∀ character ∈ before, isBlank character = true) ∧
        (∀ character ∈ after, isBlank character = true) ∧
        (quote = '"' ∨ quote = '\'') ∧ quote ∉ value
  | bare before after value =>
      (∀ character ∈ before, isBlank character = true) ∧
        (∀ character ∈ after, isBlank character = true) ∧
        value ≠ [] ∧ ∀ character ∈ value, isBareCharacter character = true

end WrittenValue

/-- An attribute of a start tag. -/
structure AttributeSpan where
  blanks : List Char
  name : List Char
  value : WrittenValue
deriving DecidableEq, Repr

namespace AttributeSpan

def text (span : AttributeSpan) : List Char :=
  span.blanks ++ (span.name ++ span.value.text)

/-- The attribute with its name in lowercase and its value decoded.  A value
that is absent is empty. -/
def pair (span : AttributeSpan) : String × String :=
  (String.ofList (lowercase span.name),
    String.ofList ((span.value.value?.map decode).getD []))

structure Accepted (span : AttributeSpan) : Prop where
  apart : span.blanks ≠ []
  blank : ∀ character ∈ span.blanks, isBlank character = true
  named : span.name ≠ []
  inside : ∀ character ∈ span.name, isAttributeCharacter character = true
  valued : span.value.Accepted

end AttributeSpan

/-- The attributes of a section, with nothing before, between and after them. -/
structure Decomposes (source : List Char) (spans : List AttributeSpan) :
    Prop where
  whole : spans.flatMap AttributeSpan.text = source
  accepted : ∀ span ∈ spans, span.Accepted

section Acceptance

open Text.Pattern

variable {text : List Char} {numbered : Bool}

theorem accepts_attributePart {number : Nat} {pattern : Pattern} :
    (attributePart numbered number pattern).Accepts text ↔
      pattern.Accepts text := by
  cases numbered <;> rfl

theorem accepts_quotedValue {quote : Char} {number : Nat} :
    (quotedValue quote
        (attributePart numbered number (manyOf (· != quote)))).Accepts text ↔
      ∃ value, quote ∉ value ∧ text = quote :: (value ++ [quote]) := by
  have inside : ∀ {value : List Char},
      (attributePart numbered number (manyOf (· != quote))).Accepts value ↔
        quote ∉ value := by
    intro value
    rw [accepts_attributePart, accepts_manyOf]
    constructor
    · intro other listed
      exact absurd (other quote listed) (by simp)
    · rintro absent character listed
      exact bne_iff_ne.mpr fun same => absent (same ▸ listed)
  simp only [quotedValue, Accepts, accepts_literal, inside]
  constructor
  · rintro ⟨_, _, rfl, ⟨value, _, absent, rfl, rfl⟩, rfl⟩
    exact ⟨value, absent, rfl⟩
  · rintro ⟨value, absent, rfl⟩
    exact ⟨_, _, rfl, ⟨value, _, absent, rfl, rfl⟩, rfl⟩

theorem accepts_valueForms :
    (valueForms numbered).Accepts text ↔
      (∃ quote value, (quote = '"' ∨ quote = '\'') ∧ quote ∉ value ∧
        text = quote :: (value ++ [quote])) ∨
      (text ≠ [] ∧
        ∀ character ∈ text, isBareCharacter character = true) := by
  simp only [valueForms, Accepts, accepts_quotedValue, accepts_attributePart,
    accepts_someOf]
  constructor
  · rintro (⟨value, inside⟩ | ⟨value, inside⟩ | bare)
    · exact .inl ⟨'"', value, .inl rfl, inside⟩
    · exact .inl ⟨'\'', value, .inr rfl, inside⟩
    · exact .inr bare
  · rintro (⟨quote, value, rfl | rfl, inside⟩ | bare)
    · exact .inl ⟨value, inside⟩
    · exact .inr (.inl ⟨value, inside⟩)
    · exact .inr (.inr bare)

/-- The forms of a value are those that its pattern takes, or nothing. -/
theorem accepts_valuePattern :
    (valuePattern numbered).optional.Accepts text ↔
      ∃ form : WrittenValue, form.Accepted ∧ form.text = text := by
  simp only [accepts_optional, valuePattern, Accepts, accepts_manyOf,
    accepts_literal, accepts_valueForms]
  constructor
  · rintro (⟨before, _, beforeBlank, ⟨_, _, rfl, ⟨after, _, afterBlank,
      ⟨quote, value, isQuote, inside, rfl⟩ | ⟨present, inside⟩, rfl⟩, rfl⟩,
      rfl⟩ | rfl)
    · exact ⟨.quoted before after quote value,
        ⟨beforeBlank, afterBlank, isQuote, inside⟩, rfl⟩
    · exact ⟨.bare before after _,
        ⟨beforeBlank, afterBlank, present, inside⟩, rfl⟩
    · exact ⟨.absent, trivial, rfl⟩
  · rintro ⟨form, accepted, rfl⟩
    cases form with
    | absent => exact .inr rfl
    | quoted before after quote value =>
        obtain ⟨beforeBlank, afterBlank, isQuote, inside⟩ := accepted
        exact .inl ⟨before, _, beforeBlank, ⟨_, _, rfl, ⟨after, _, afterBlank,
          .inl ⟨quote, value, isQuote, inside, rfl⟩, rfl⟩, rfl⟩, rfl⟩
    | bare before after value =>
        obtain ⟨beforeBlank, afterBlank, present, inside⟩ := accepted
        exact .inl ⟨before, _, beforeBlank, ⟨_, _, rfl, ⟨after, _, afterBlank,
          .inr ⟨present, inside⟩, rfl⟩, rfl⟩, rfl⟩

theorem accepts_spacedAttribute :
    (sequence (someOf isBlank) (attributePattern numbered)).Accepts text ↔
      ∃ span : AttributeSpan, span.Accepted ∧ span.text = text := by
  simp only [attributePattern, Accepts, accepts_attributePart, accepts_someOf,
    accepts_valuePattern]
  constructor
  · rintro ⟨blanks, _, ⟨apart, blank⟩, ⟨name, _, ⟨named, inside⟩,
      ⟨form, accepted, rfl⟩, rfl⟩, rfl⟩
    exact ⟨⟨blanks, name, form⟩, ⟨apart, blank, named, inside, accepted⟩, rfl⟩
  · rintro ⟨⟨blanks, name, form⟩, ⟨apart, blank, named, inside, accepted⟩, rfl⟩
    exact ⟨blanks, _, ⟨apart, blank⟩, ⟨name, _, ⟨named, inside⟩,
      ⟨form, accepted, rfl⟩, rfl⟩, rfl⟩

/-- The decomposed texts are those that the pattern takes as an attribute
section, attribute by attribute. -/
theorem accepts_sectionPattern :
    sectionPattern.Accepts text ↔ ∃ spans, Decomposes text spans := by
  simp only [sectionPattern, Accepts]
  constructor
  · rintro ⟨parts, accepted, rfl⟩
    induction parts with
    | nil => exact ⟨[], rfl, List.forall_mem_nil _⟩
    | cons part parts induction =>
        obtain ⟨first, others⟩ := List.forall_mem_cons.mp accepted
        obtain ⟨span, spanAccepted, rfl⟩ := accepts_spacedAttribute.mp first
        obtain ⟨spans, whole, spansAccepted⟩ := induction others
        exact ⟨span :: spans, congrArg (span.text ++ ·) whole,
          List.forall_mem_cons.mpr ⟨spanAccepted, spansAccepted⟩⟩
  · rintro ⟨spans, rfl, accepted⟩
    refine ⟨spans.map AttributeSpan.text, ?_, rfl⟩
    intro part listed
    obtain ⟨span, member, rfl⟩ := List.mem_map.mp listed
    exact accepts_spacedAttribute.mpr ⟨span, accepted span member, rfl⟩

end Acceptance

section Spelling

theorem WrittenValue.Accepted.spelled {value : WrittenValue}
    (accepted : value.Accepted) :
    ValueSpelled value.text (value.value?.getD []) := by
  cases value with
  | absent => exact .absent
  | quoted before after quote value =>
      obtain ⟨beforeBlank, afterBlank, isQuote, inside⟩ := accepted
      exact .quoted beforeBlank afterBlank isQuote inside
  | bare before after value =>
      obtain ⟨beforeBlank, afterBlank, present, inside⟩ := accepted
      exact .bare beforeBlank afterBlank present inside

theorem ValueSpelled.exists_writtenValue {written value : List Char}
    (spelled : ValueSpelled written value) :
    ∃ form : WrittenValue, form.Accepted ∧ form.text = written := by
  cases spelled with
  | absent => exact ⟨.absent, trivial, rfl⟩
  | quoted beforeBlank afterBlank isQuote inside =>
      exact ⟨.quoted _ _ _ _, ⟨beforeBlank, afterBlank, isQuote, inside⟩, rfl⟩
  | bare beforeBlank afterBlank present inside =>
      exact ⟨.bare _ _ _, ⟨beforeBlank, afterBlank, present, inside⟩, rfl⟩

theorem AttributeSpan.pair_eq (span : AttributeSpan) :
    span.pair = (String.ofList (lowercase span.name),
      String.ofList (decode (span.value.value?.getD []))) := by
  rw [pair]
  cases span.value.value? <;> rfl

/-- A decomposed section lists the attributes of its decomposition. -/
theorem Decomposes.spelled {source : List Char} {spans : List AttributeSpan}
    (decomposes : Decomposes source spans) :
    AttributesSpelled source (spans.map AttributeSpan.pair) := by
  obtain ⟨rfl, accepted⟩ := decomposes
  induction spans with
  | nil => exact .nil
  | cons span spans induction =>
      obtain ⟨first, others⟩ := List.forall_mem_cons.mp accepted
      have spelled := AttributesSpelled.cons first.apart first.blank
        first.named first.inside first.valued.spelled (induction others)
      rw [← span.pair_eq] at spelled
      simpa [AttributeSpan.text] using spelled

theorem AttributesSpelled.exists_decomposes {source : List Char}
    {pairs : List (String × String)}
    (spelled : AttributesSpelled source pairs) :
    ∃ spans, Decomposes source spans := by
  induction spelled with
  | nil => exact ⟨[], rfl, by simp⟩
  | @cons blanks name _ _ _ _ apart blank named inside valued later induction =>
      obtain ⟨spans, rfl, accepted⟩ := induction
      obtain ⟨form, formAccepted, rfl⟩ := valued.exists_writtenValue
      refine ⟨⟨blanks, name, form⟩ :: spans, ?_, ?_⟩
      · simp [AttributeSpan.text]
      · exact List.forall_mem_cons.mpr
          ⟨⟨apart, blank, named, inside, formAccepted⟩, accepted⟩

end Spelling

section Uniqueness

/-- What stands between a name and the characters of a value is read in one
way. -/
theorem sign_inj {before after before' after' tail tail' : List Char}
    (beforeBlank : ∀ character ∈ before, isBlank character = true)
    (afterBlank : ∀ character ∈ after, isBlank character = true)
    (beforeBlank' : ∀ character ∈ before', isBlank character = true)
    (afterBlank' : ∀ character ∈ after', isBlank character = true)
    (stops : ∀ character ∈ tail.head?, isBlank character = false)
    (stops' : ∀ character ∈ tail'.head?, isBlank character = false)
    (same : before ++ '=' :: (after ++ tail) =
      before' ++ '=' :: (after' ++ tail')) :
    before = before' ∧ after = after' ∧ tail = tail' := by
  have sign : ∀ rest : List Char,
      ∀ character ∈ ('=' :: rest).head?, isBlank character = false := by
    intro rest character first
    cases first
    exact isBlank_sign
  obtain ⟨taken, left⟩ := takeWhile_run beforeBlank _ (sign (after ++ tail))
  obtain ⟨taken', left'⟩ :=
    takeWhile_run beforeBlank' _ (sign (after' ++ tail'))
  rw [same] at taken left
  obtain ⟨-, rest⟩ := List.cons.inj (left.symm.trans left')
  obtain ⟨second, third⟩ := takeWhile_run afterBlank tail stops
  obtain ⟨second', third'⟩ := takeWhile_run afterBlank' tail' stops'
  rw [rest] at second third
  exact ⟨taken.symm.trans taken', second.symm.trans second',
    third.symm.trans third'⟩

theorem isBlank_head_of_isQuote {quote : Char}
    (isQuote : quote = '"' ∨ quote = '\'') (rest : List Char) :
    ∀ character ∈ (quote :: rest).head?, isBlank character = false := by
  intro character first
  cases first
  exact isBlank_of_isQuote isQuote

theorem isBlank_head_of_bare {value : List Char}
    (inside : ∀ character ∈ value, isBareCharacter character = true) :
    ∀ character ∈ value.head?, isBlank character = false :=
  fun character first => isBlank_of_isBareCharacter
    (inside character (List.mem_of_mem_head? first))

theorem WrittenValue.text_ne_of_quoted_bare
    {before after value before' after' value' : List Char} {quote : Char}
    (accepted : (quoted before after quote value).Accepted)
    (accepted' : (bare before' after' value').Accepted) :
    (quoted before after quote value).text ≠
      (bare before' after' value').text := by
  obtain ⟨beforeBlank, afterBlank, isQuote, inside⟩ := accepted
  obtain ⟨beforeBlank', afterBlank', present, bares⟩ := accepted'
  intro same
  obtain ⟨-, -, rfl⟩ := sign_inj beforeBlank afterBlank beforeBlank'
    afterBlank' (isBlank_head_of_isQuote isQuote _)
    (isBlank_head_of_bare bares) same
  exact not_isQuote_of_isBareCharacter (bares quote List.mem_cons_self)
    isQuote

theorem WrittenValue.text_eq_nil {value : WrittenValue} :
    value.text = [] ↔ value = .absent := by
  cases value <;> simp [text]

/-- A value is written in one form only. -/
theorem WrittenValue.eq_of_text_eq {value other : WrittenValue}
    (accepted : value.Accepted) (accepted' : other.Accepted)
    (same : value.text = other.text) : value = other := by
  cases value with
  | absent => exact (text_eq_nil.mp same.symm).symm
  | quoted before after quote value =>
      cases other with
      | absent => exact text_eq_nil.mp same
      | bare => exact absurd same (text_ne_of_quoted_bare accepted accepted')
      | quoted before' after' quote' value' =>
          obtain ⟨beforeBlank, afterBlank, isQuote, -⟩ := accepted
          obtain ⟨beforeBlank', afterBlank', isQuote', -⟩ := accepted'
          obtain ⟨rfl, rfl, whole⟩ := sign_inj beforeBlank afterBlank
            beforeBlank' afterBlank' (isBlank_head_of_isQuote isQuote _)
            (isBlank_head_of_isQuote isQuote' _) same
          obtain ⟨rfl, rest⟩ := List.cons.inj whole
          rw [List.append_cancel_right rest]
  | bare before after value =>
      cases other with
      | absent => exact text_eq_nil.mp same
      | quoted =>
          exact absurd same.symm (text_ne_of_quoted_bare accepted' accepted)
      | bare before' after' value' =>
          obtain ⟨beforeBlank, afterBlank, -, inside⟩ := accepted
          obtain ⟨beforeBlank', afterBlank', -, inside'⟩ := accepted'
          obtain ⟨rfl, rfl, rfl⟩ := sign_inj beforeBlank afterBlank
            beforeBlank' afterBlank' (isBlank_head_of_bare inside)
            (isBlank_head_of_bare inside') same
          rfl

/-- A text cannot continue the name or the value of an attribute before it. -/
structure FollowsAttribute (rest : List Char) : Prop where
  name : ∀ character ∈ rest.head?, isAttributeCharacter character = false
  bare : ∀ character ∈ rest.head?, isBareCharacter character = false
  value : value? rest = none

theorem FollowsAttribute.nil : FollowsAttribute [] where
  name := by simp
  bare := by simp
  value := rfl

theorem FollowsAttribute.bracket (rest : List Char) :
    FollowsAttribute ('>' :: rest) where
  name := by
    intro character first
    cases first
    decide
  bare := by
    intro character first
    cases first
    decide
  value := by
    have noBlank : isBlank '>' = false := by decide
    simp [value?, noBlank]

/-- An attribute that follows another one starts with a blank and has a name. -/
theorem AttributeSpan.Accepted.followsAttribute {span : AttributeSpan}
    (accepted : span.Accepted) (rest : List Char) :
    FollowsAttribute (span.text ++ rest) := by
  have starts : ∀ character ∈ (span.text ++ rest).head?,
      isBlank character = true := by
    obtain ⟨space, spaces, blanks⟩ :=
      List.exists_cons_of_ne_nil accepted.apart
    have blank := accepted.blank
    rw [text, blanks]
    rw [blanks] at blank
    intro character first
    cases first
    exact blank _ List.mem_cons_self
  refine ⟨fun character first => ?_, fun character first => ?_, ?_⟩
  · exact isAttributeCharacter_of_isBlank (starts character first)
  · exact isBareCharacter_of_isBlank (starts character first)
  · obtain ⟨initial, more, name⟩ := List.exists_cons_of_ne_nil accepted.named
    have fits := accepted.inside initial (by simp [name])
    have noBlank := isBlank_eq_false_of_isAttributeCharacter fits
    obtain ⟨-, left⟩ := takeWhile_run accepted.blank
      (initial :: (more ++ (span.value.text ++ rest))) (by simp [noBlank])
    simp only [text, name, List.cons_append, List.append_assoc]
    exact value?_of_isAttributeCharacter left fits

theorem Decomposes.followsAttribute {source rest : List Char}
    {spans : List AttributeSpan} (decomposes : Decomposes source spans)
    (follows : FollowsAttribute rest) : FollowsAttribute (source ++ rest) := by
  obtain ⟨rfl, accepted⟩ := decomposes
  cases spans with
  | nil => exact follows
  | cons span spans =>
      rw [List.flatMap_cons, List.append_assoc]
      exact (accepted span List.mem_cons_self).followsAttribute _

theorem WrittenValue.Accepted.value?_append {value : WrittenValue}
    (accepted : value.Accepted) {rest : List Char}
    (follows : FollowsAttribute rest) :
    Markup.value? (value.text ++ rest) =
      value.value?.map fun read => ⟨value.text, read, rest⟩ := by
  cases value with
  | absent => exact follows.value
  | quoted | bare =>
      exact accepted.spelled.value?_append (by simp [text]) follows.bare

theorem WrittenValue.text_of_value? {value : WrittenValue}
    (absent : value.value? = none) : value.text = [] := by
  cases value with
  | absent => rfl
  | quoted | bare => cases absent

theorem WrittenValue.Accepted.append_inj {value other : WrittenValue}
    {rest rest' : List Char} (accepted : value.Accepted)
    (accepted' : other.Accepted) (follows : FollowsAttribute rest)
    (follows' : FollowsAttribute rest')
    (same : value.text ++ rest = other.text ++ rest') :
    value = other ∧ rest = rest' := by
  have read := accepted.value?_append follows
  rw [same, accepted'.value?_append follows'] at read
  have sameText : value.text = other.text := by
    cases here : value.value? with
    | none =>
        cases there : other.value? with
        | none => rw [text_of_value? here, text_of_value? there]
        | some value' =>
            rw [here, there] at read
            cases read
    | some value' =>
        cases there : other.value? with
        | none =>
            rw [here, there] at read
            cases read
        | some value'' =>
            rw [here, there] at read
            exact (congrArg ValueSpan.written (Option.some.inj read)).symm
  rw [sameText] at same
  exact ⟨eq_of_text_eq accepted accepted' sameText,
    List.append_cancel_left same⟩

/-- The parts of an attribute are found again where it is written. -/
theorem AttributeSpan.Accepted.parts {span : AttributeSpan}
    {rest : List Char} (accepted : span.Accepted)
    (follows : FollowsAttribute rest) :
    (span.text ++ rest).takeWhile isBlank = span.blanks ∧
      ((span.text ++ rest).dropWhile isBlank).takeWhile isAttributeCharacter =
        span.name ∧
      ((span.text ++ rest).dropWhile isBlank).dropWhile isAttributeCharacter =
        span.value.text ++ rest := by
  have nameStarts : ∀ character ∈
      (span.name ++ (span.value.text ++ rest)).head?,
      isBlank character = false := by
    obtain ⟨initial, more, name⟩ := List.exists_cons_of_ne_nil accepted.named
    have fits := accepted.inside
    rw [name] at fits ⊢
    intro character first
    cases first
    exact isBlank_eq_false_of_isAttributeCharacter (fits _ List.mem_cons_self)
  obtain ⟨blanks, afterBlanks⟩ := takeWhile_run accepted.blank _ nameStarts
  obtain ⟨name, afterName⟩ := takeWhile_run accepted.inside _
    (accepted.valued.spelled.head_not_isAttributeCharacter follows.name)
  simp only [text, List.append_assoc]
  rw [blanks, afterBlanks, name, afterName]
  exact ⟨rfl, rfl, rfl⟩

theorem AttributeSpan.Accepted.append_inj {span other : AttributeSpan}
    {rest rest' : List Char} (accepted : span.Accepted)
    (accepted' : other.Accepted) (follows : FollowsAttribute rest)
    (follows' : FollowsAttribute rest')
    (same : span.text ++ rest = other.text ++ rest') :
    span = other ∧ rest = rest' := by
  obtain ⟨blanks, name, left⟩ := accepted.parts follows
  obtain ⟨blanks', name', left'⟩ := accepted'.parts follows'
  rw [same] at blanks name left
  obtain ⟨sameValue, sameRest⟩ := accepted.valued.append_inj accepted'.valued
    follows follows' (left.symm.trans left')
  refine ⟨?_, sameRest⟩
  cases span
  cases other
  cases blanks.symm.trans blanks'
  cases name.symm.trans name'
  cases sameValue
  rfl

theorem AttributeSpan.Accepted.text_ne_nil {span : AttributeSpan}
    (accepted : span.Accepted) : span.text ≠ [] := by
  rw [text]
  exact List.append_ne_nil_of_left_ne_nil accepted.apart _

/-- There is at most one decomposition of a section. -/
theorem Decomposes.unique {source : List Char}
    {spans others : List AttributeSpan} (decomposes : Decomposes source spans)
    (decomposes' : Decomposes source others) : others = spans := by
  induction spans generalizing source others with
  | nil =>
      obtain ⟨rfl, -⟩ := decomposes
      cases others with
      | nil => rfl
      | cons other others =>
          have empty := List.append_eq_nil_iff.mp decomposes'.whole
          exact absurd empty.1
            (decomposes'.accepted other List.mem_cons_self).text_ne_nil
  | cons span spans induction =>
      obtain ⟨rfl, accepted⟩ := decomposes
      obtain ⟨first, later⟩ := List.forall_mem_cons.mp accepted
      cases others with
      | nil =>
          have empty := List.append_eq_nil_iff.mp decomposes'.whole.symm
          exact absurd empty.1 first.text_ne_nil
      | cons other others =>
          obtain ⟨whole, accepted'⟩ := decomposes'
          obtain ⟨first', later'⟩ := List.forall_mem_cons.mp accepted'
          have decomposed : Decomposes _ spans := ⟨rfl, later⟩
          have decomposed' : Decomposes _ others := ⟨rfl, later'⟩
          have follows := decomposed.followsAttribute .nil
          have follows' := decomposed'.followsAttribute .nil
          rw [List.append_nil] at follows follows'
          obtain ⟨rfl, rest⟩ := first'.append_inj first follows' follows whole
          rw [rest] at decomposed'
          rw [induction decomposed decomposed']

end Uniqueness

section Sections

theorem AttributeSpan.Accepted.attribute?_append {span : AttributeSpan}
    {rest : List Char} (accepted : span.Accepted)
    (follows : FollowsAttribute rest) :
    attribute? (span.text ++ rest) = some (span.text, rest) := by
  obtain ⟨blanks, name, left⟩ := accepted.parts follows
  have present : ¬ (span.blanks.isEmpty || span.name.isEmpty) = true := by
    simp [accepted.apart, accepted.named]
  rw [attribute?]
  simp only [blanks, name, left, if_neg present]
  rw [accepted.valued.value?_append follows]
  cases absent : span.value.value? with
  | some value => simp [text]
  | none => simp [text, WrittenValue.text_of_value? absent]

/-- A decomposed section is the whole attribute section where no attribute
follows it. -/
theorem Decomposes.attributeSection_append {source rest : List Char}
    {spans : List AttributeSpan} (decomposes : Decomposes source spans)
    (follows : FollowsAttribute rest) (ends : attribute? rest = none) :
    attributeSection (source ++ rest) = (source, rest) := by
  induction spans generalizing source with
  | nil =>
      obtain ⟨rfl, -⟩ := decomposes
      exact attributeSection_eq_nil ends
  | cons span spans induction =>
      obtain ⟨rfl, accepted⟩ := decomposes
      obtain ⟨first, later⟩ := List.forall_mem_cons.mp accepted
      have decomposed : Decomposes _ spans := ⟨rfl, later⟩
      rw [List.flatMap_cons, List.append_assoc,
        attributeSection_of_attribute?
          (first.attribute?_append (decomposed.followsAttribute follows)),
        induction decomposed]

end Sections

end WorkbookSite.Markup

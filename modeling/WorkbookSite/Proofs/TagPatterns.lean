import WorkbookSite.Proofs.Patterns
import WorkbookSite.Proofs.SpelledTags

/-!
# The patterns of tags

A start tag is recognised as a whole by one pattern, and its attribute section
is taken apart by searching for another one; an end tag has a pattern of its
own.  The readers of tags never try a second way; they take what these patterns
take, although a pattern may give back what it has read so far.
-/

namespace WorkbookSite.Markup

open Text (Pattern Position isBlank)
open Text.Pattern

/-- A part of an attribute, numbered where the parts are asked for. -/
def attributePart (numbered : Bool) (number : Nat) (pattern : Pattern) :
    Pattern :=
  if numbered then group number pattern else pattern

def quotedValue (quote : Char) (inside : Pattern) : Pattern :=
  sequence (literal quote) (sequence inside (literal quote))

/-- A value in either of the quotes or without quotes. -/
def valueForms (numbered : Bool) : Pattern :=
  either (quotedValue '"' (attributePart numbered 2 (manyOf (· != '"'))))
    (either (quotedValue '\'' (attributePart numbered 3 (manyOf (· != '\''))))
      (attributePart numbered 4 (someOf isBareCharacter)))

def valuePattern (numbered : Bool) : Pattern :=
  sequence (manyOf isBlank) (sequence (literal '=')
    (sequence (manyOf isBlank) (valueForms numbered)))

/-- An attribute without the blanks before it.  Its name is the first part, and
its value one of the other three. -/
def attributePattern (numbered : Bool) : Pattern :=
  sequence (attributePart numbered 1 (someOf isAttributeCharacter))
    (valuePattern numbered).optional

def tagNamePattern : Pattern :=
  sequence (one Char.isAlpha) (manyOf isTagCharacter)

/-- The attributes of a start tag, each behind blanks. -/
def sectionPattern : Pattern :=
  many (sequence (someOf isBlank) (attributePattern false))

def startTagEndPattern : Pattern :=
  sequence (manyOf isBlank)
    (sequence (group 3 (literal '/').optional) (literal '>'))

/-- A start tag: the groups are its name, its attribute section and the slash
before its closing bracket. -/
def startTagPattern : Pattern :=
  sequence (literal '<') (sequence (group 1 tagNamePattern)
    (sequence (group 2 sectionPattern) startTagEndPattern))

/-- An end tag: the group is its name. -/
def endTagPattern : Pattern :=
  sequence (literal '<') (sequence (literal '/')
    (sequence (group 1 tagNamePattern)
      (sequence (manyOf isBlank) (literal '>'))))

/-- The groups with the part of an attribute among them. -/
def addPart (numbered : Bool) (number : Nat) (text : List Char)
    (groups : List (Nat × List Char)) : List (Nat × List Char) :=
  if numbered then (number, text) :: groups else groups

section Parts

variable {α : Type} {later : Position → Option α} {numbered : Bool}

theorem thenTry_literal_cons (expected character : Char) (rest : List Char)
    (groups : List (Nat × List Char)) :
    (literal expected).thenTry ⟨character :: rest, groups⟩ later =
      if character = expected then later ⟨rest, groups⟩ else none := by
  rw [literal, thenTry_one_cons]
  simp only [beq_iff_eq]

theorem thenTry_literal_nil (expected : Char)
    (groups : List (Nat × List Char)) :
    (literal expected).thenTry ⟨[], groups⟩ later = none :=
  thenTry_one_nil _ _

theorem thenTry_attributePart (number : Nat) (pattern : Pattern)
    (here : Position) :
    (attributePart numbered number pattern).thenTry here later =
      pattern.thenTry here fun next =>
        later ⟨next.rest,
          addPart numbered number (here.taken next) next.groups⟩ := by
  cases numbered with
  | false => rfl
  | true => exact thenTry_group number pattern here

theorem committed_attributePart {test : Char → Bool}
    (committed : Committed test later) (number : Nat) (here : Position) :
    Committed test fun next =>
      later ⟨next.rest,
        addPart numbered number (here.taken next) next.groups⟩ :=
  fun _ _ _ _ present inside ends failed =>
    committed _ present inside ends failed

theorem taken_dropWhile (test : Char → Bool) (source : List Char)
    (groups groups' : List (Nat × List Char)) :
    Position.taken ⟨source, groups⟩ ⟨source.dropWhile test, groups'⟩ =
      source.takeWhile test :=
  Position.taken_eq List.takeWhile_append_dropWhile.symm

theorem thenTry_part_manyOf {test : Char → Bool}
    (committed : Committed test later) (number : Nat) (source : List Char)
    (groups : List (Nat × List Char)) :
    (attributePart numbered number (manyOf test)).thenTry ⟨source, groups⟩
        later =
      later ⟨source.dropWhile test,
        addPart numbered number (source.takeWhile test) groups⟩ := by
  rw [thenTry_attributePart,
    thenTry_manyOf (committed_attributePart committed number _),
    taken_dropWhile]

theorem thenTry_part_someOf {test : Char → Bool}
    (committed : Committed test later) (number : Nat) (source : List Char)
    (groups : List (Nat × List Char)) :
    (attributePart numbered number (someOf test)).thenTry ⟨source, groups⟩
        later =
      if (source.takeWhile test).isEmpty then none
      else later ⟨source.dropWhile test,
        addPart numbered number (source.takeWhile test) groups⟩ := by
  rw [thenTry_attributePart,
    thenTry_someOf (committed_attributePart committed number _),
    taken_dropWhile]

end Parts

section Values

variable {α : Type} {later : Position → Option α} {numbered : Bool}

theorem thenTry_quotedValue_of_ne {quote first : Char}
    (other : first ≠ quote) (inside : Pattern) (body : List Char)
    (groups : List (Nat × List Char)) :
    (quotedValue quote inside).thenTry ⟨first :: body, groups⟩ later =
      none := by
  rw [quotedValue, thenTry_sequence, thenTry_literal_cons, if_neg other]

theorem thenTry_quotedValue (quote : Char) (number : Nat) (body : List Char)
    (groups : List (Nat × List Char)) :
    (quotedValue quote
        (attributePart numbered number (manyOf (· != quote)))).thenTry
          ⟨quote :: body, groups⟩ later =
      match body.dropWhile (· != quote) with
      | [] => none
      | _ :: rest =>
          later ⟨rest, addPart numbered number
            (body.takeWhile (· != quote)) groups⟩ := by
  have committed : Committed (· != quote) fun next =>
      (literal quote).thenTry next later := by
    apply Committed.of_head
    intro character rest groups other
    rw [thenTry_literal_cons, if_neg (bne_iff_ne.mp other)]
  rw [quotedValue, thenTry_sequence, thenTry_literal_cons, if_pos rfl,
    thenTry_sequence, thenTry_part_manyOf committed]
  cases closed : body.dropWhile (· != quote) with
  | nil => rw [thenTry_literal_nil]
  | cons closing rest =>
      have same : closing = quote := by
        have head := head?_dropWhile_eq_false
          (fun character => character != quote) body closing
        simpa [closed] using head
      rw [thenTry_literal_cons, if_pos same]

theorem takeWhile_of_quote {quote : Char} (isQuote : quote = '"' ∨ quote = '\'')
    (body : List Char) : (quote :: body).takeWhile isBareCharacter = [] := by
  apply List.takeWhile_cons_of_neg
  intro bare
  exact not_isQuote_of_isBareCharacter bare isQuote

/-- The value at the start of a text is read in the form that its first
character says. -/
theorem thenTry_valueForms (numbered : Bool)
    (committed : Committed isBareCharacter later)
    (sign source : List Char) (groups : List (Nat × List Char)) :
    ∃ number ∈ [2, 3, 4],
      (valueForms numbered).thenTry ⟨source, groups⟩ later =
        (valueAfterSign? sign source).bind fun span =>
          later ⟨span.rest, addPart numbered number span.value groups⟩ := by
  simp only [valueForms, thenTry_either, thenTry_part_someOf committed]
  cases source with
  | nil =>
      simp only [quotedValue, thenTry_sequence, thenTry_literal_nil]
      exact ⟨2, by simp, rfl⟩
  | cons quote body =>
      rw [valueAfterSign?]
      by_cases double : quote = '"'
      · subst double
        refine ⟨2, by simp, ?_⟩
        rw [thenTry_quotedValue, thenTry_quotedValue_of_ne (by decide),
          takeWhile_of_quote (.inl rfl), if_pos (Or.inl (Eq.refl '"'))]
        cases body.dropWhile (· != '"') <;> simp
      · by_cases single : quote = '\''
        · subst single
          refine ⟨3, by simp, ?_⟩
          rw [thenTry_quotedValue, thenTry_quotedValue_of_ne double,
            takeWhile_of_quote (.inr rfl), if_pos (Or.inr (Eq.refl '\''))]
          cases body.dropWhile (· != '\'') <;> simp
        · refine ⟨4, by simp, ?_⟩
          rw [thenTry_quotedValue_of_ne double,
            thenTry_quotedValue_of_ne single,
            if_neg (not_or.mpr ⟨double, single⟩), Option.none_or,
            Option.none_or]
          split <;> simp_all

theorem valueAfterSign?_of_isBlank (sign : List Char) {space : Char}
    (blank : isBlank space = true) (rest : List Char) :
    valueAfterSign? sign (space :: rest) = none := by
  have noQuote : ¬ (space = '"' ∨ space = '\'') := by
    intro isQuote
    rw [isBlank_of_isQuote isQuote] at blank
    cases blank
  simp [valueAfterSign?, noQuote, isBareCharacter_of_isBlank blank]

theorem thenTry_valuePattern (numbered : Bool)
    (committed : Committed isBareCharacter later)
    (source : List Char) (groups : List (Nat × List Char)) :
    ∃ number ∈ [2, 3, 4],
      (valuePattern numbered).thenTry ⟨source, groups⟩ later =
        (value? source).bind fun span =>
          later ⟨span.rest, addPart numbered number span.value groups⟩ := by
  have blanksAfter : Committed isBlank fun next =>
      (valueForms numbered).thenTry next later := by
    apply Committed.of_head
    intro space rest groups blank
    obtain ⟨number, -, read⟩ := thenTry_valueForms numbered
      committed [] (space :: rest) groups
    rw [read, valueAfterSign?_of_isBlank [] blank]
    rfl
  have blanksBefore : Committed isBlank fun next =>
      (sequence (literal '=')
        (sequence (manyOf isBlank) (valueForms numbered))).thenTry
          next later := by
    apply Committed.of_head
    intro space rest groups blank
    have noSign : space ≠ '=' := by
      rintro rfl
      rw [isBlank_sign] at blank
      cases blank
    rw [thenTry_sequence, thenTry_literal_cons, if_neg noSign]
  rw [valuePattern, thenTry_sequence, thenTry_manyOf blanksBefore, value?]
  cases source.dropWhile isBlank with
  | nil =>
      rw [thenTry_sequence, thenTry_literal_nil]
      exact ⟨2, by simp, rfl⟩
  | cons sign afterSign =>
      rw [thenTry_sequence, thenTry_literal_cons]
      by_cases signed : sign = '='
      · simp only [if_pos signed]
        rw [thenTry_sequence, thenTry_manyOf blanksAfter]
        exact thenTry_valueForms numbered committed _ _ _
      · simp only [if_neg signed]
        exact ⟨2, by simp, rfl⟩

end Values

section Attributes

variable {α : Type} {later : Position → Option α}

/-- What follows an attribute never makes it give anything back. -/
structure ContinuesAttribute (later : Position → Option α) : Prop where
  name : Committed isAttributeCharacter later
  bare : Committed isBareCharacter later
  value : ∀ {source : List Char} {span : ValueSpan}
    {groups : List (Nat × List Char)} (groups' : List (Nat × List Char)),
    value? source = some span → later ⟨span.rest, groups⟩ = none →
      later ⟨source, groups'⟩ = none

theorem value?_of_isAttributeCharacter {source more : List Char}
    {initial : Char} (left : source.dropWhile isBlank = initial :: more)
    (fits : isAttributeCharacter initial = true) : value? source = none := by
  have noSign : initial ≠ '=' := by
    rintro rfl
    exact absurd fits (by decide)
  rw [value?, left]
  exact if_neg noSign

/-- An attribute takes its whole name, and its value if there is one. -/
theorem thenTry_attributePattern (numbered : Bool)
    (continues : ContinuesAttribute later)
    (source : List Char) (groups : List (Nat × List Char)) :
    ∃ number ∈ [2, 3, 4],
      (attributePattern numbered).thenTry ⟨source, groups⟩ later =
        if (source.takeWhile isAttributeCharacter).isEmpty then none
        else
          let named := addPart numbered 1
            (source.takeWhile isAttributeCharacter) groups
          match value? (source.dropWhile isAttributeCharacter) with
          | some span =>
              later ⟨span.rest, addPart numbered number span.value named⟩
          | none => later ⟨source.dropWhile isAttributeCharacter, named⟩ := by
  have wholeName : Committed isAttributeCharacter fun next =>
      (valuePattern numbered).optional.thenTry next later := by
    intro name rest groups groups' present inside ends failed
    obtain ⟨initial, more, rfl⟩ := List.exists_cons_of_ne_nil present
    obtain ⟨number, -, read⟩ := thenTry_valuePattern numbered
      continues.bare (initial :: more ++ rest) groups'
    have fits := inside initial List.mem_cons_self
    have noBlank := isBlank_eq_false_of_isAttributeCharacter fits
    have noValue : value? (initial :: (more ++ rest)) = none :=
      value?_of_isAttributeCharacter
        (List.dropWhile_cons_of_neg (by simp [noBlank])) fits
    simp only [thenTry_optional, Option.or_eq_none_iff] at failed ⊢
    rw [read, List.cons_append, noValue]
    exact ⟨rfl, continues.name groups' present inside ends failed.2⟩
  obtain ⟨number, listed, read⟩ := thenTry_valuePattern numbered
    continues.bare (source.dropWhile isAttributeCharacter)
    (addPart numbered 1 (source.takeWhile isAttributeCharacter) groups)
  refine ⟨number, listed, ?_⟩
  rw [attributePattern, thenTry_sequence, thenTry_part_someOf wholeName,
    thenTry_optional, read]
  congr 1
  cases valued : value? (source.dropWhile isAttributeCharacter) with
  | none => rfl
  | some span =>
      simp only [Option.bind_some]
      cases result : later ⟨span.rest, addPart numbered number span.value
          (addPart numbered 1 (source.takeWhile isAttributeCharacter)
            groups)⟩ with
      | some _ => rfl
      | none => rw [continues.value _ valued result, Option.none_or]

theorem thenTry_spacedAttribute (continues : ContinuesAttribute later)
    (source : List Char) (groups : List (Nat × List Char)) :
    (sequence (someOf isBlank) (attributePattern false)).thenTry
        ⟨source, groups⟩ later =
      (attribute? source).bind fun taken => later ⟨taken.2, groups⟩ := by
  have wholeBlanks : Committed isBlank fun next =>
      (attributePattern false).thenTry next later := by
    apply Committed.of_head
    intro space rest groups blank
    obtain ⟨number, -, read⟩ := thenTry_attributePattern false
      continues (space :: rest) groups
    have noName := isAttributeCharacter_of_isBlank blank
    rw [read, List.takeWhile_cons_of_neg (by simp [noName])]
    rfl
  obtain ⟨number, -, read⟩ := thenTry_attributePattern false
    continues (source.dropWhile isBlank) groups
  rw [thenTry_sequence, thenTry_someOf wholeBlanks, read, attribute?]
  by_cases blanks : (source.takeWhile isBlank).isEmpty = true
  · simp [blanks]
  · by_cases name : ((source.dropWhile isBlank).takeWhile
        isAttributeCharacter).isEmpty = true
    · simp [name]
    · simp only [blanks, name, Bool.or_self]
      cases value? ((source.dropWhile isBlank).dropWhile
          isAttributeCharacter) <;> rfl

end Attributes

section Sections

variable {α : Type} {later : Position → Option α}

/-- What follows an attribute section succeeds where a start tag ends. -/
def EndsStartTag (later : Position → Option α) : Prop :=
  ∀ here, later here = none ↔ startTagEnd? here.rest = none

/-- The position behind the attribute section that starts here. -/
def afterSection (here : Position) : Position :=
  ⟨(attributeSection here.rest).2, here.groups⟩

theorem afterSection_of_attribute? {source : List Char}
    (ends : attribute? source = none) (groups : List (Nat × List Char)) :
    afterSection ⟨source, groups⟩ = ⟨source, groups⟩ := by
  rw [afterSection, attributeSection_eq_nil ends]

theorem startTagEnd?_of_dropWhile {source more : List Char} {initial : Char}
    (left : source.dropWhile isBlank = initial :: more)
    (noSlash : initial ≠ '/') (noBracket : initial ≠ '>') :
    startTagEnd? source = none := by
  rw [startTagEnd?, left]
  split <;> simp_all

theorem startTagEnd?_of_isAttributeCharacter {source : List Char}
    (fits : ∀ character ∈ (source.dropWhile isBlank).head?,
      isAttributeCharacter character = true) :
    startTagEnd? source = none := by
  cases left : source.dropWhile isBlank with
  | nil => rw [startTagEnd?, left]
  | cons initial more =>
      rw [left] at fits
      have fit := fits initial rfl
      apply startTagEnd?_of_dropWhile left <;> rintro rfl
      · exact absurd fit (by decide)
      · exact absurd fit (by decide)

theorem startTagEnd?_of_value? {source : List Char} {span : ValueSpan}
    (found : value? source = some span) :
    startTagEnd? source = none ∧ attribute? source = none := by
  unfold value? at found
  split at found
  · cases found
  · rename_i sign afterSign left
    split at found
    · rename_i signed
      subst signed
      refine ⟨startTagEnd?_of_dropWhile left (by decide) (by decide), ?_⟩
      have noName : ('=' :: afterSign).takeWhile isAttributeCharacter = [] :=
        List.takeWhile_cons_of_neg (by decide)
      simp [attribute?, left, noName]
    · cases found

/-- A bare value before the end of a tag goes on up to the bracket, over a slash
that would end the tag as well. -/
theorem committed_bare_afterSection (ends : EndsStartTag later) :
    Committed isBareCharacter fun next => later (afterSection next) := by
  intro run rest groups groups' present inside stops failed
  obtain ⟨initial, more, rfl⟩ := List.exists_cons_of_ne_nil present
  have bare := inside initial List.mem_cons_self
  have noBlank := isBlank_of_isBareCharacter bare
  have noBracket : initial ≠ '>' := by
    rintro rfl
    exact absurd bare (by decide)
  dsimp only at failed ⊢
  rw [List.cons_append,
    afterSection_of_attribute? (attribute?_of_not_isBlank noBlank), ends,
    startTagEnd?, List.dropWhile_cons_of_neg (by simp [noBlank])]
  split
  · rename_i after slash
    obtain ⟨rfl, closed⟩ := List.cons.inj slash
    have notBare : isBareCharacter '>' = false := by decide
    cases more with
    | cons other others =>
        obtain ⟨rfl, -⟩ := List.cons.inj closed
        rw [inside '>' (by simp)] at notBare
        cases notBare
    | nil =>
        rw [List.nil_append] at closed
        subst closed
        have bracket : attribute? ('>' :: after) = none :=
          attribute?_of_not_isBlank (by decide)
        rw [afterSection_of_attribute? bracket, ends] at failed
        cases failed
  · rename_i after bracket
    exact absurd (List.cons.inj bracket).1 noBracket
  · rfl

theorem continuesAttribute_afterSection (ends : EndsStartTag later)
    (length : Nat) :
    ContinuesAttribute fun next =>
      if next.rest.length < length then later (afterSection next)
      else none where
  name := by
    apply Committed.of_head
    intro initial rest groups fits
    have noBlank := isBlank_eq_false_of_isAttributeCharacter fits
    have noEnd : startTagEnd? (initial :: rest) = none := by
      apply startTagEnd?_of_isAttributeCharacter
      simp [noBlank, fits]
    rw [afterSection_of_attribute? (attribute?_of_not_isBlank noBlank),
      (ends _).mpr noEnd, ite_self]
  bare := by
    intro run rest groups groups' present inside stops failed
    dsimp only at failed ⊢
    by_cases shorter : (run ++ rest).length < length
    · have restShorter : rest.length < length := by
        rw [List.length_append] at shorter
        omega
      rw [if_pos restShorter] at failed
      rw [if_pos shorter]
      exact committed_bare_afterSection ends groups' present inside stops
        failed
    · rw [if_neg shorter]
  value := by
    intro source span groups groups' valued failed
    obtain ⟨noEnd, noAttribute⟩ := startTagEnd?_of_value? valued
    rw [afterSection_of_attribute? noAttribute, (ends _).mpr noEnd, ite_self]

theorem startTagEnd?_of_attribute? {source : List Char}
    {taken : List Char × List Char} (found : attribute? source = some taken) :
    startTagEnd? source = none := by
  apply startTagEnd?_of_isAttributeCharacter
  unfold attribute? at found
  simp only at found
  split at found
  · cases found
  · rename_i present
    intro character first
    cases left : source.dropWhile isBlank with
    | nil => simp [left] at present
    | cons initial more =>
        rw [left] at first present
        cases first
        by_contra fits
        simp [fits] at present

/-- All attributes are taken, for the tag does not end before the last one. -/
theorem thenTry_sectionPattern (ends : EndsStartTag later)
    (source : List Char) (groups : List (Nat × List Char)) :
    sectionPattern.thenTry ⟨source, groups⟩ later =
      later (afterSection ⟨source, groups⟩) := by
  induction length : source.length using Nat.strongRecOn generalizing source
    groups with
  | ind length induction =>
      subst length
      have next : (fun next : Position =>
          if next.rest.length < source.length then
            sectionPattern.thenTry next later
          else none) = fun next =>
          if next.rest.length < source.length then later (afterSection next)
          else none := by
        funext next
        split
        · exact induction next.rest.length ‹_› next.rest next.groups rfl
        · rfl
      rw [sectionPattern] at next ⊢
      rw [thenTry_many, next,
        thenTry_spacedAttribute (continuesAttribute_afterSection ends _)]
      cases found : attribute? source with
      | none =>
          rw [afterSection_of_attribute? found]
          rfl
      | some taken =>
          have noEnd := (ends ⟨source, groups⟩).mpr
            (startTagEnd?_of_attribute? found)
          have shorter := attribute?_shorter found
          have whole := attributeSection_of_attribute? found
          rw [noEnd, Option.or_none, Option.bind_some, if_pos shorter,
            afterSection, afterSection, whole]

end Sections

section StartTags

theorem thenTry_startTagEndPattern (source : List Char)
    (groups : List (Nat × List Char)) :
    startTagEndPattern.thenTry ⟨source, groups⟩ some =
      (startTagEnd? source).map fun ended =>
        ⟨ended.2, (3, if ended.1 then ['/'] else []) :: groups⟩ := by
  have blanks : Committed isBlank fun next =>
      (sequence (group 3 (literal '/').optional) (literal '>')).thenTry
        next some := by
    apply Committed.of_head
    intro space rest groups blank
    have noSlash : space ≠ '/' := by
      rintro rfl
      exact absurd blank (by decide)
    have noBracket : space ≠ '>' := by
      rintro rfl
      exact absurd blank (by decide)
    simp [thenTry_sequence, thenTry_group, thenTry_optional,
      thenTry_literal_cons, noSlash, noBracket]
  rw [startTagEndPattern, thenTry_sequence, thenTry_manyOf blanks,
    startTagEnd?]
  simp only [thenTry_sequence, thenTry_group, thenTry_optional]
  cases source.dropWhile isBlank with
  | nil => simp [thenTry_literal_nil]
  | cons initial more =>
      by_cases slash : initial = '/'
      · subst slash
        cases more with
        | nil => simp [thenTry_literal_cons, thenTry_literal_nil]
        | cons next rest =>
            by_cases bracket : next = '>'
            · simp [thenTry_literal_cons, bracket, Position.taken]
            · simp [thenTry_literal_cons, bracket]
      · by_cases bracket : initial = '>'
        · simp [thenTry_literal_cons, bracket, Position.taken]
        · simp [thenTry_literal_cons, slash, bracket]

/-- The text of a group, or nothing where the group was not read. -/
def groupText (groups : List (Nat × List Char)) (number : Nat) : List Char :=
  (groups.lookup number).getD []

/-- The tag that a match of the pattern stands for. -/
def matchedTag (groups : List (Nat × List Char)) : StartTag :=
  ⟨String.ofList (lowercase (groupText groups 1)),
    readAttributes (groupText groups 2), !(groupText groups 3).isEmpty⟩

theorem thenTry_afterTagName (source : List Char)
    (groups : List (Nat × List Char)) :
    (sequence (group 2 sectionPattern) startTagEndPattern).thenTry
        ⟨source, groups⟩ some =
      (startTagEnd? (attributeSection source).2).map fun ended =>
        ⟨ended.2, (3, if ended.1 then ['/'] else []) ::
          (2, (attributeSection source).1) :: groups⟩ := by
  have ends : EndsStartTag fun next =>
      startTagEndPattern.thenTry ⟨next.rest,
        (2, Position.taken ⟨source, groups⟩ next) :: next.groups⟩ some := by
    intro here
    dsimp only
    rw [thenTry_startTagEndPattern, Option.map_eq_none_iff]
  have attributes : Position.taken ⟨source, groups⟩
      (afterSection ⟨source, groups⟩) = (attributeSection source).1 :=
    Position.taken_eq (attributeSection_append source).symm
  rw [thenTry_sequence, thenTry_group, thenTry_sectionPattern ends, attributes,
    thenTry_startTagEndPattern]
  rfl

theorem isBlank_of_isTagCharacter {character : Char}
    (tagged : isTagCharacter character = true) : isBlank character = false := by
  by_contra blank
  rw [isTagCharacter_of_isBlank (by simpa using blank)] at tagged
  cases tagged

/-- The name of a tag is read as a whole where nothing that follows it begins
like a name. -/
theorem thenTry_tagName {α : Type} {later : Position → Option α}
    (fails : ∀ {character : Char} (rest : List Char)
      (groups : List (Nat × List Char)),
      isTagCharacter character = true →
        later ⟨character :: rest, groups⟩ = none) (source : List Char) :
    (group 1 tagNamePattern).thenTry ⟨source, []⟩ later =
      (tagName? source).bind fun named =>
        later ⟨named.2, [(1, named.1)]⟩ := by
  have wholeName : Committed isTagCharacter fun next =>
      later ⟨next.rest,
        (1, Position.taken ⟨source, []⟩ next) :: next.groups⟩ :=
    Committed.of_head fun rest _ tagged => fails rest _ tagged
  rw [thenTry_group, tagNamePattern, thenTry_sequence]
  cases source with
  | nil => rw [thenTry_one_nil, tagName?, Option.bind_none]
  | cons initial rest =>
      have name : Position.taken ⟨initial :: rest, []⟩
          ⟨rest.dropWhile isTagCharacter, []⟩ =
          initial :: rest.takeWhile isTagCharacter :=
        Position.taken_eq (by simp [List.takeWhile_append_dropWhile])
      rw [thenTry_one_cons, thenTry_manyOf wholeName, name, tagName?]
      split <;> rfl

theorem match?_startTagPattern (source : List Char) :
    startTagPattern.match? ('<' :: source) =
      (tagName? source).bind fun named =>
        (startTagEnd? (attributeSection named.2).2).map fun ended =>
          ⟨ended.2, [(3, if ended.1 then ['/'] else []),
            (2, (attributeSection named.2).1), (1, named.1)]⟩ := by
  rw [match?_eq, startTagPattern, thenTry_sequence, thenTry_literal_cons,
    if_pos rfl, thenTry_sequence, thenTry_tagName]
  · simp only [thenTry_afterTagName]
  · intro character rest groups tagged
    have noBlank := isBlank_of_isTagCharacter tagged
    rw [thenTry_afterTagName,
      attributeSection_eq_nil (attribute?_of_not_isBlank noBlank),
      startTagEnd?_of_dropWhile
        (List.dropWhile_cons_of_neg (by simp [noBlank]))]
    · rfl
    · rintro rfl
      exact absurd tagged (by decide)
    · rintro rfl
      exact absurd tagged (by decide)

theorem match?_startTagPattern_of_head {source : List Char}
    (other : source.head? ≠ some '<') :
    startTagPattern.match? source = none := by
  rw [match?_eq, startTagPattern, thenTry_sequence]
  cases source with
  | nil => exact thenTry_literal_nil _ _
  | cons initial rest =>
      rw [thenTry_literal_cons, if_neg (by simpa using other)]

/-- A start tag is read as its pattern says. -/
theorem startTag?_eq_match? (source : List Char) :
    startTag? source = (startTagPattern.match? ('<' :: source)).map
      fun found => (matchedTag found.groups, found.rest) := by
  rw [match?_startTagPattern, startTag?]
  simp only [Option.bind_eq_bind, Option.map_bind]
  congr 1
  funext named
  simp only [Function.comp_apply, Option.map_map]
  rcases startTagEnd? (attributeSection named.2).2 with _ | ⟨_ | _, rest⟩
  · rfl
  · simp [matchedTag, groupText, List.lookup]
  · simp [matchedTag, groupText, List.lookup]

end StartTags

section EndTags

theorem thenTry_endTagEnd (source : List Char)
    (groups : List (Nat × List Char)) :
    (sequence (manyOf isBlank) (literal '>')).thenTry ⟨source, groups⟩ some =
      match source.dropWhile isBlank with
      | '>' :: rest => some ⟨rest, groups⟩
      | _ => none := by
  have blanks : Committed isBlank fun next =>
      (literal '>').thenTry next (some : Position → Option Position) := by
    apply Committed.of_head
    intro space rest groups blank
    have noBracket : space ≠ '>' := by
      rintro rfl
      exact absurd blank (by decide)
    rw [thenTry_literal_cons, if_neg noBracket]
  rw [thenTry_sequence, thenTry_manyOf blanks]
  cases source.dropWhile isBlank with
  | nil => rw [thenTry_literal_nil]
  | cons initial more =>
      rw [thenTry_literal_cons]
      by_cases bracket : initial = '>'
      · simp [bracket]
      · simp [bracket]

/-- An end tag is read as its pattern says. -/
theorem endTag?_eq_match? (source : List Char) :
    endTag? source = (endTagPattern.match? ('<' :: '/' :: source)).map
      fun found => (String.ofList (lowercase (groupText found.groups 1)),
        found.rest) := by
  rw [match?_eq, endTagPattern, thenTry_sequence, thenTry_literal_cons,
    if_pos rfl, thenTry_sequence, thenTry_literal_cons, if_pos rfl,
    thenTry_sequence, thenTry_tagName, endTag?]
  · simp only [Option.bind_eq_bind, Option.map_bind]
    congr 1
    funext named
    rw [Function.comp_apply, thenTry_endTagEnd]
    cases named.2.dropWhile isBlank with
    | nil => rfl
    | cons initial more =>
        by_cases bracket : initial = '>'
        · simp [bracket, groupText, List.lookup]
        · simp [bracket]
  · intro character rest groups tagged
    have noBlank := isBlank_of_isTagCharacter tagged
    rw [thenTry_endTagEnd, List.dropWhile_cons_of_neg (by simp [noBlank])]
    split
    · rename_i same
      obtain ⟨rfl, -⟩ := List.cons.inj same
      exact absurd tagged (by decide)
    · rfl

end EndTags

section Search

/-- The attribute that a match of the pattern stands for.  Where no value was
read, its value is the empty text. -/
def matchedAttribute (groups : List (Nat × List Char)) : String × String :=
  let value := ((groups.lookup 2).or (groups.lookup 3)).or (groups.lookup 4)
  (String.ofList (lowercase (groupText groups 1)),
    String.ofList ((value.map CharacterReference.decode).getD []))

theorem continuesAttribute_some :
    ContinuesAttribute (some : Position → Option Position) where
  name := Committed.of_ne_none fun _ => Option.some_ne_none _
  bare := Committed.of_ne_none fun _ => Option.some_ne_none _
  value := fun _ _ failed => absurd failed (Option.some_ne_none _)

theorem matchedAttribute_value {number : Nat} (listed : number ∈ [2, 3, 4])
    (name value : List Char) :
    matchedAttribute [(number, value), (1, name)] =
      (String.ofList (lowercase name),
        String.ofList (CharacterReference.decode value)) := by
  simp only [List.mem_cons, List.not_mem_nil, or_false] at listed
  rcases listed with rfl | rfl | rfl <;>
    simp [matchedAttribute, groupText, List.lookup]

/-- The first attribute that is found is the next one. -/
theorem search?_attributePattern (source : List Char) :
    ((attributePattern true).search? source).map
        (fun found => (matchedAttribute found.groups, found.rest)) =
      nextAttribute? source := by
  induction source with
  | nil =>
      obtain ⟨number, listed, read⟩ := thenTry_attributePattern
        true continuesAttribute_some [] []
      rw [search?, match?_eq, read]
      rfl
  | cons initial rest induction =>
      obtain ⟨number, listed, read⟩ := thenTry_attributePattern
        true continuesAttribute_some (initial :: rest) []
      rw [search?, match?_eq, read, nextAttribute?]
      by_cases fits : isAttributeCharacter initial = true
      · rw [List.takeWhile_cons_of_pos fits, List.dropWhile_cons_of_pos fits,
          List.dropWhile_cons_of_neg (by simp [fits])]
        simp only [List.isEmpty_cons, addPart, if_true]
        cases value? (rest.dropWhile isAttributeCharacter) with
        | none => simp [matchedAttribute, groupText, List.lookup]
        | some span => simp [matchedAttribute_value listed]
      · rw [List.takeWhile_cons_of_neg fits]
        simp only [List.isEmpty_nil, if_true, Option.none_or]
        rw [induction, nextAttribute?,
          List.dropWhile_cons_of_pos (by simp [fits])]

/-- The attributes of a section are those that are found in it. -/
theorem readAttributes_eq_findAll (source : List Char) :
    readAttributes source =
      ((attributePattern true).findAll source).map matchedAttribute := by
  induction length : source.length using Nat.strongRecOn
    generalizing source with
  | ind length induction =>
      subst length
      have next := search?_attributePattern source
      rw [findAll]
      cases found : (attributePattern true).search? source with
      | none =>
          rw [found, Option.map_none] at next
          rw [readAttributes, ← next]
          rfl
      | some position =>
          rw [found, Option.map_some] at next
          have shorter := nextAttribute?_shorter next.symm
          rw [readAttributes_of_nextAttribute? next.symm,
            induction _ shorter _ rfl]
          simp only [if_pos shorter, List.map_cons]

end Search

end WorkbookSite.Markup

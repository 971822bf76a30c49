import WorkbookSite.Proofs.PrintedTags

/-!
# Spelled tags

The grammar of tags, said without the readers.  A start tag is spelled by a name,
attributes with blanks before each of them, and its end; each way to write a
value has a rule of its own.  What the readers take from a source is spelled in
this way, and an attribute section stands for the attributes of its spelling.
-/

namespace WorkbookSite.Markup

open Text (isBlank)

/-- What is written after the name of an attribute, and its value before
decoding. -/
inductive ValueSpelled : List Char → List Char → Prop where
  | absent : ValueSpelled [] []
  | quoted {before after value : List Char} {quote : Char}
      (beforeBlank : ∀ character ∈ before, isBlank character = true)
      (afterBlank : ∀ character ∈ after, isBlank character = true)
      (isQuote : quote = '"' ∨ quote = '\'') (inside : quote ∉ value) :
      ValueSpelled (before ++ '=' :: (after ++ quote :: (value ++ [quote])))
        value
  | bare {before after value : List Char}
      (beforeBlank : ∀ character ∈ before, isBlank character = true)
      (afterBlank : ∀ character ∈ after, isBlank character = true)
      (present : value ≠ [])
      (inside : ∀ character ∈ value, isBareCharacter character = true) :
      ValueSpelled (before ++ '=' :: (after ++ value)) value

/-- An attribute section and the attributes that it lists. -/
inductive AttributesSpelled :
    List Char → List (String × String) → Prop where
  | nil : AttributesSpelled [] []
  | cons {blanks name written value rest : List Char}
      {pairs : List (String × String)} (apart : blanks ≠ [])
      (blank : ∀ character ∈ blanks, isBlank character = true)
      (named : name ≠ [])
      (inside : ∀ character ∈ name, isAttributeCharacter character = true)
      (valued : ValueSpelled written value)
      (later : AttributesSpelled rest pairs) :
      AttributesSpelled (blanks ++ (name ++ (written ++ rest)))
        ((String.ofList (lowercase name),
          String.ofList (CharacterReference.decode value)) :: pairs)

/-- The characters of a tag name in any case. -/
inductive TagNameSpelled : List Char → Prop where
  | mk {initial : Char} {more : List Char} (letter : initial.isAlpha = true)
      (inside : ∀ character ∈ more, isTagCharacter character = true) :
      TagNameSpelled (initial :: more)

inductive StartTagSpelled : List Char → StartTag → Prop where
  | mk {name attributes blanks : List Char} {pairs : List (String × String)}
      {selfClosing : Bool} (named : TagNameSpelled name)
      (listed : AttributesSpelled attributes pairs)
      (blank : ∀ character ∈ blanks, isBlank character = true) :
      StartTagSpelled
        ('<' :: (name ++ (attributes ++ (blanks ++ tagClosing selfClosing))))
        ⟨String.ofList (lowercase name), pairs, selfClosing⟩

/-- An end tag and the name of its element. -/
inductive EndTagSpelled : List Char → String → Prop where
  | mk {name blanks : List Char} (named : TagNameSpelled name)
      (blank : ∀ character ∈ blanks, isBlank character = true) :
      EndTagSpelled ('<' :: '/' :: (name ++ (blanks ++ ['>'])))
        (String.ofList (lowercase name))

theorem head?_dropWhile_eq_false (test : Char → Bool) (source : List Char) :
    ∀ character ∈ (source.dropWhile test).head?, test character = false := by
  intro character first
  have head := List.head?_dropWhile_not test source
  rw [Option.mem_def.mp first] at head
  simpa using head

theorem isBlank_sign : isBlank '=' = false := by decide

theorem isBlank_of_isQuote {quote : Char} (isQuote : quote = '"' ∨ quote = '\'') :
    isBlank quote = false := by
  rcases isQuote with rfl | rfl <;> decide

theorem isBlank_of_isBareCharacter {character : Char}
    (bare : isBareCharacter character = true) : isBlank character = false := by
  simp only [isBareCharacter, Bool.and_eq_true, Bool.not_eq_true'] at bare
  exact bare.1.1.1.1.1.1

theorem not_isQuote_of_isBareCharacter {character : Char}
    (bare : isBareCharacter character = true) :
    ¬ (character = '"' ∨ character = '\'') := by
  rintro (rfl | rfl) <;> exact absurd bare (by decide)

theorem ValueSpelled.of_valueAfterSign? {before after source : List Char}
    {span : ValueSpan}
    (beforeBlank : ∀ character ∈ before, isBlank character = true)
    (afterBlank : ∀ character ∈ after, isBlank character = true)
    (found : valueAfterSign? (before ++ '=' :: after) source = some span) :
    ValueSpelled span.written span.value := by
  unfold valueAfterSign? at found
  split at found
  · cases found
  · rename_i quote body
    split at found
    · rename_i isQuote
      split at found
      · cases found
      · rename_i closing rest closed
        have same : closing = quote := by
          have head := head?_dropWhile_eq_false
            (fun character => character != quote) body closing
          simpa [closed] using head
        cases found
        subst same
        have inside : closing ∉ body.takeWhile (· != closing) := by
          intro listed
          simpa using List.mem_takeWhile_imp listed
        simpa using ValueSpelled.quoted beforeBlank afterBlank isQuote inside
    · simp only at found
      split at found
      · cases found
      · rename_i present
        rw [List.isEmpty_iff] at present
        cases found
        have bare := ValueSpelled.bare beforeBlank afterBlank present
          (fun character listed => List.mem_takeWhile_imp listed)
        simpa only [List.append_assoc, List.cons_append] using bare

theorem ValueSpelled.of_value? {source : List Char} {span : ValueSpan}
    (found : value? source = some span) :
    ValueSpelled span.written span.value := by
  unfold value? at found
  split at found
  · cases found
  · split at found
    · exact .of_valueAfterSign?
        (fun character listed => List.mem_takeWhile_imp listed)
        (fun character listed => List.mem_takeWhile_imp listed) found
    · cases found

theorem ValueSpelled.eq_nil {written value : List Char}
    (spelled : ValueSpelled written value) (absent : written = []) :
    value = [] := by
  cases spelled with
  | absent => rfl
  | quoted => simp at absent
  | bare => simp at absent

/-- A value that is written is read back, up to where a value without quotes
would go on. -/
theorem ValueSpelled.value?_append {written value rest : List Char}
    (spelled : ValueSpelled written value) (present : written ≠ [])
    (stops : ∀ character ∈ rest.head?, isBareCharacter character = false) :
    value? (written ++ rest) = some ⟨written, value, rest⟩ := by
  cases spelled with
  | absent => exact absurd rfl present
  | @quoted before after _ quote beforeBlank afterBlank isQuote inside =>
      obtain ⟨signTaken, signLeft⟩ := takeWhile_run beforeBlank
        ('=' :: (after ++ quote :: (value ++ [quote])) ++ rest)
        (by simp [isBlank_sign])
      obtain ⟨taken, left⟩ := takeWhile_run afterBlank
        (quote :: (value ++ quote :: rest))
        (by simp [isBlank_of_isQuote isQuote])
      have unquoted : ∀ character ∈ value, (character != quote) = true := by
        intro character listed
        apply bne_iff_ne.mpr
        rintro rfl
        exact inside listed
      obtain ⟨valueTaken, valueLeft⟩ := takeWhile_run unquoted (quote :: rest)
        (by simp)
      simp only [List.append_assoc, List.cons_append, List.nil_append]
        at signTaken signLeft ⊢
      simp [value?, valueAfterSign?, signTaken, signLeft, taken, left,
        isQuote, valueTaken, valueLeft]
  | @bare before after _ beforeBlank afterBlank written inside =>
      obtain ⟨signTaken, signLeft⟩ := takeWhile_run beforeBlank
        ('=' :: (after ++ (value ++ rest))) (by simp [isBlank_sign])
      obtain ⟨first, more, rfl⟩ := List.exists_cons_of_ne_nil written
      have firstBare := inside first List.mem_cons_self
      obtain ⟨taken, left⟩ := takeWhile_run afterBlank (first :: more ++ rest)
        (by simp [isBlank_of_isBareCharacter firstBare])
      obtain ⟨valueTaken, valueLeft⟩ := takeWhile_run inside rest stops
      simp only [List.append_assoc, List.cons_append] at *
      simp [value?, valueAfterSign?, signTaken, signLeft, taken, left,
        not_isQuote_of_isBareCharacter firstBare, valueTaken, valueLeft]

theorem isBlank_eq_false_of_isAttributeCharacter {character : Char}
    (fits : isAttributeCharacter character = true) :
    isBlank character = false := by
  simp only [isAttributeCharacter, Bool.and_eq_true, Bool.not_eq_true'] at fits
  exact fits.1.1.1.1.1

theorem isAttributeCharacter_of_isBlank {character : Char}
    (blank : isBlank character = true) :
    isAttributeCharacter character = false := by
  simp [isAttributeCharacter, blank]

theorem isBareCharacter_of_isBlank {character : Char}
    (blank : isBlank character = true) : isBareCharacter character = false := by
  simp [isBareCharacter, blank]

theorem isTagCharacter_of_isBlank {character : Char}
    (blank : isBlank character = true) :
    isTagCharacter character = false := by
  cases tagged : isTagCharacter character with
  | false => rfl
  | true =>
      have small : isBlank character = false := by
        simp [isTagCharacter, Char.isAlphanum, Char.isAlpha, Char.isUpper,
          Char.isLower, Char.isDigit, UInt32.le_iff_toNat_le] at tagged
        simp [isBlank]
        rcases tagged with (letter | digit) | rfl
        · omega
        · omega
        · decide
      rw [blank] at small
      cases small

/-- What follows the name of an attribute is no part of the name. -/
theorem ValueSpelled.head_not_isAttributeCharacter
    {written value rest : List Char} (spelled : ValueSpelled written value)
    (stops : ∀ character ∈ rest.head?, isAttributeCharacter character = false) :
    ∀ character ∈ (written ++ rest).head?,
      isAttributeCharacter character = false := by
  have sign : isAttributeCharacter '=' = false := by decide
  have signed : ∀ {before more : List Char},
      (∀ character ∈ before, isBlank character = true) →
        ∀ character ∈ (before ++ '=' :: more ++ rest).head?,
          isAttributeCharacter character = false := by
    intro before more blank character first
    cases before with
    | nil =>
        cases first
        exact sign
    | cons other before =>
        cases first
        exact isAttributeCharacter_of_isBlank (blank _ List.mem_cons_self)
  cases spelled with
  | absent => exact stops
  | quoted beforeBlank => exact signed beforeBlank
  | bare beforeBlank => exact signed beforeBlank

/-- An attribute section starts with a blank, and not with a value. -/
theorem AttributesSpelled.start {text : List Char}
    {pairs : List (String × String)} (spelled : AttributesSpelled text pairs) :
    (∀ character ∈ text.head?, isBlank character = true) ∧
      value? text = none := by
  cases spelled with
  | nil => exact ⟨by simp, rfl⟩
  | @cons blanks name written value rest pairs apart blank named inside valued
      later =>
      obtain ⟨space, spaces, rfl⟩ := List.exists_cons_of_ne_nil apart
      obtain ⟨initial, more, rfl⟩ := List.exists_cons_of_ne_nil named
      have initialFits := inside initial List.mem_cons_self
      obtain ⟨-, left⟩ := takeWhile_run blank
        (initial :: (more ++ (written ++ rest)))
        (by simp [isBlank_eq_false_of_isAttributeCharacter initialFits])
      have noSign : initial ≠ '=' := by
        rintro rfl
        exact absurd initialFits (by decide)
      constructor
      · intro character first
        cases first
        exact blank _ List.mem_cons_self
      · simp only [List.cons_append] at left ⊢
        simp [value?, left, noSign]

/-- The first attribute of a section is read, and the others are left. -/
theorem AttributesSpelled.nextAttribute?_cons
    {blanks name written value rest : List Char}
    {pairs : List (String × String)}
    (blank : ∀ character ∈ blanks, isBlank character = true) (named : name ≠ [])
    (inside : ∀ character ∈ name, isAttributeCharacter character = true)
    (valued : ValueSpelled written value)
    (later : AttributesSpelled rest pairs) :
    nextAttribute? (blanks ++ (name ++ (written ++ rest))) =
      some ((String.ofList (lowercase name),
        String.ofList (CharacterReference.decode value)), rest) := by
  obtain ⟨initial, more, rfl⟩ := List.exists_cons_of_ne_nil named
  have skipped : ∀ character ∈ blanks, (!isAttributeCharacter character) = true := by
    intro character listed
    simp [isAttributeCharacter_of_isBlank (blank character listed)]
  obtain ⟨-, start⟩ := takeWhile_run skipped
    (initial :: (more ++ (written ++ rest)))
    (by simp [inside initial List.mem_cons_self])
  have restStops : ∀ character ∈ rest.head?,
      isAttributeCharacter character = false :=
    fun character first =>
      isAttributeCharacter_of_isBlank (later.start.1 character first)
  obtain ⟨nameTaken, nameLeft⟩ := takeWhile_run
    (fun character listed => inside character (List.mem_cons_of_mem initial listed))
    (written ++ rest) (valued.head_not_isAttributeCharacter restStops)
  simp only [List.cons_append] at start ⊢
  by_cases absent : written = []
  · obtain rfl := valued.eq_nil absent
    subst absent
    simp only [List.nil_append] at start nameTaken nameLeft ⊢
    simp only [nextAttribute?, start, nameTaken, nameLeft, later.start.2]
    rfl
  · have read := valued.value?_append absent fun character first =>
      isBareCharacter_of_isBlank (later.start.1 character first)
    simp only [nextAttribute?, start, nameTaken, nameLeft, read]

theorem AttributesSpelled.readAttributes_eq {text : List Char}
    {pairs : List (String × String)} (spelled : AttributesSpelled text pairs) :
    readAttributes text = pairs := by
  induction spelled with
  | nil =>
      rw [readAttributes]
      rfl
  | cons apart blank named inside valued later induction =>
      rw [readAttributes_of_nextAttribute?
        (nextAttribute?_cons blank named inside valued later), induction]

/-- What is taken as one attribute is spelled as one. -/
theorem spelled_of_attribute? {source taken rest : List Char}
    (found : attribute? source = some (taken, rest)) :
    ∃ blanks name written value, taken = blanks ++ (name ++ written) ∧
      blanks ≠ [] ∧ (∀ character ∈ blanks, isBlank character = true) ∧
      name ≠ [] ∧
      (∀ character ∈ name, isAttributeCharacter character = true) ∧
      ValueSpelled written value := by
  unfold attribute? at found
  simp only at found
  split at found
  · cases found
  · rename_i present
    simp only [Bool.or_eq_true, List.isEmpty_iff, not_or] at present
    have blanks : ∀ character ∈ source.takeWhile isBlank,
        isBlank character = true :=
      fun character listed => List.mem_takeWhile_imp listed
    have inside : ∀ character ∈
        (source.dropWhile isBlank).takeWhile isAttributeCharacter,
        isAttributeCharacter character = true :=
      fun character listed => List.mem_takeWhile_imp listed
    split at found
    · rename_i span valued
      cases found
      exact ⟨_, _, span.written, span.value, List.append_assoc _ _ _,
        present.1, blanks, present.2, inside, .of_value? valued⟩
    · cases found
      exact ⟨_, _, [], [], by rw [List.append_nil], present.1, blanks,
        present.2, inside, .absent⟩

theorem exists_spelled_attributeSection (source : List Char) :
    ∃ pairs, AttributesSpelled (attributeSection source).1 pairs := by
  fun_induction attributeSection source with
  | case1 => exact ⟨[], .nil⟩
  | case2 source taken rest found shorter more after split induction =>
      obtain ⟨blanks, name, written, value, rfl, apart, blank, named, inside,
        valued⟩ := spelled_of_attribute? found
      rw [split] at induction
      obtain ⟨pairs, later⟩ := induction
      have spelled := AttributesSpelled.cons apart blank named inside valued
        later
      exact ⟨_, by simpa only [List.append_assoc] using spelled⟩
  | case3 => exact ⟨[], .nil⟩

/-- The attributes that are read from a section are those of its spelling. -/
theorem attributesSpelled_attributeSection (source : List Char) :
    AttributesSpelled (attributeSection source).1
      (readAttributes (attributeSection source).1) := by
  obtain ⟨pairs, spelled⟩ := exists_spelled_attributeSection source
  rwa [spelled.readAttributes_eq]

theorem TagNameSpelled.of_tagName? {source name rest : List Char}
    (found : tagName? source = some (name, rest)) :
    source = name ++ rest ∧ TagNameSpelled name := by
  unfold tagName? at found
  split at found
  · cases found
  · split at found
    · rename_i letter
      cases found
      exact ⟨by simp [List.takeWhile_append_dropWhile],
        .mk letter fun character listed => List.mem_takeWhile_imp listed⟩
    · cases found

theorem TagNameSpelled.tagName?_append {name rest : List Char}
    (named : TagNameSpelled name)
    (stops : ∀ character ∈ rest.head?, isTagCharacter character = false) :
    tagName? (name ++ rest) = some (name, rest) := by
  cases named with
  | mk letter inside =>
      obtain ⟨taken, left⟩ := takeWhile_run inside rest stops
      rw [List.cons_append, tagName?, if_pos letter, taken, left]

theorem TagNameSpelled.endTag?_append {name blanks : List Char}
    (named : TagNameSpelled name)
    (blank : ∀ character ∈ blanks, isBlank character = true)
    (rest : List Char) :
    endTag? (name ++ (blanks ++ '>' :: rest)) =
      some (String.ofList (lowercase name), rest) := by
  have stops : ∀ character ∈ (blanks ++ '>' :: rest).head?,
      isTagCharacter character = false := by
    intro character first
    cases blanks with
    | nil =>
        cases first
        decide
    | cons space spaces =>
        cases first
        exact isTagCharacter_of_isBlank (blank _ List.mem_cons_self)
  have bracket : isBlank '>' = false := by decide
  obtain ⟨-, left⟩ := takeWhile_run blank ('>' :: rest) (by simp [bracket])
  simp [endTag?, named.tagName?_append stops, left]

theorem attributeSection_append (source : List Char) :
    (attributeSection source).1 ++ (attributeSection source).2 = source := by
  fun_induction attributeSection source with
  | case1 => rfl
  | case2 source taken rest found shorter more after split induction =>
      rw [split] at induction
      simp only at induction ⊢
      rw [List.append_assoc, induction, attribute?_append found]
  | case3 => rfl

theorem startTagEnd?_spelled {source rest : List Char} {selfClosing : Bool}
    (found : startTagEnd? source = some (selfClosing, rest)) :
    ∃ blanks, (∀ character ∈ blanks, isBlank character = true) ∧
      source = blanks ++ (tagClosing selfClosing ++ rest) := by
  have whole := List.takeWhile_append_dropWhile (p := isBlank) (l := source)
  refine ⟨source.takeWhile isBlank,
    fun character listed => List.mem_takeWhile_imp listed, ?_⟩
  unfold startTagEnd? at found
  split at found
  · rename_i left
    cases found
    rw [left] at whole
    exact whole.symm
  · rename_i left
    cases found
    rw [left] at whole
    exact whole.symm
  · cases found

theorem isTagCharacter_head_spelled {attributes blanks : List Char}
    {pairs : List (String × String)}
    (listed : AttributesSpelled attributes pairs)
    (blank : ∀ character ∈ blanks, isBlank character = true)
    (selfClosing : Bool) (rest : List Char) :
    ∀ character ∈ (attributes ++
        (blanks ++ (tagClosing selfClosing ++ rest))).head?,
      isTagCharacter character = false := by
  intro character first
  cases attributes with
  | cons space spaces =>
      exact isTagCharacter_of_isBlank (listed.start.1 character first)
  | nil =>
      cases blanks with
      | cons space spaces =>
          cases first
          exact isTagCharacter_of_isBlank (blank _ List.mem_cons_self)
      | nil => cases selfClosing <;> (cases first; decide)

theorem startTagEnd?_append {blanks : List Char}
    (blank : ∀ character ∈ blanks, isBlank character = true)
    (selfClosing : Bool) (rest : List Char) :
    startTagEnd? (blanks ++ (tagClosing selfClosing ++ rest)) =
      some (selfClosing, rest) := by
  have closed := startTagEnd?_tagClosing selfClosing rest
  rw [startTagEnd?] at closed ⊢
  rwa [List.dropWhile_append_of_pos blank]

/-- A start tag is read as it is spelled, if its attributes are the whole
attribute section. -/
theorem TagNameSpelled.startTag?_append {name attributes blanks rest : List Char}
    {pairs : List (String × String)} {selfClosing : Bool}
    (named : TagNameSpelled name)
    (listed : AttributesSpelled attributes pairs)
    (blank : ∀ character ∈ blanks, isBlank character = true)
    (whole : attributeSection
        (attributes ++ (blanks ++ (tagClosing selfClosing ++ rest))) =
      (attributes, blanks ++ (tagClosing selfClosing ++ rest))) :
    startTag? (name ++
        (attributes ++ (blanks ++ (tagClosing selfClosing ++ rest)))) =
      some (⟨String.ofList (lowercase name), pairs, selfClosing⟩, rest) := by
  have stops := isTagCharacter_head_spelled listed blank selfClosing rest
  simp [startTag?, named.tagName?_append stops, whole,
    startTagEnd?_append blank, listed.readAttributes_eq]

theorem StartTagSpelled.of_startTag? {source rest : List Char} {tag : StartTag}
    (found : startTag? source = some (tag, rest)) :
    ∃ written, '<' :: source = written ++ rest ∧ StartTagSpelled written tag := by
  simp only [startTag?, Option.bind_eq_bind, Option.bind_eq_some_iff] at found
  obtain ⟨⟨name, afterName⟩, named, ⟨selfClosing, after⟩, ended, result⟩ :=
    found
  cases result
  obtain ⟨rfl, nameSpelled⟩ := TagNameSpelled.of_tagName? named
  obtain ⟨blanks, blank, left⟩ := startTagEnd?_spelled ended
  have whole := attributeSection_append afterName
  rw [left] at whole
  refine ⟨_, ?_, .mk nameSpelled (attributesSpelled_attributeSection afterName)
    blank⟩
  simp only [List.cons_append, List.append_assoc, whole]

theorem EndTagSpelled.of_endTag? {source rest : List Char} {name : String}
    (found : endTag? source = some (name, rest)) :
    ∃ written, '<' :: '/' :: source = written ++ rest ∧
      EndTagSpelled written name := by
  simp only [endTag?, Option.bind_eq_bind, Option.bind_eq_some_iff] at found
  obtain ⟨⟨spelled, afterName⟩, named, result⟩ := found
  obtain ⟨rfl, nameSpelled⟩ := TagNameSpelled.of_tagName? named
  have whole := List.takeWhile_append_dropWhile (p := isBlank) (l := afterName)
  simp only at result
  split at result
  · rename_i tail closed
    cases result
    rw [closed] at whole
    have blank : ∀ character ∈ afterName.takeWhile isBlank,
        isBlank character = true :=
      fun character listed => List.mem_takeWhile_imp listed
    refine ⟨_, ?_, .mk nameSpelled blank⟩
    simp only [List.cons_append, List.append_assoc, List.nil_append, whole]
  · cases result

end WorkbookSite.Markup

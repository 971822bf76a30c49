import WorkbookSite.Proofs.EscapedText
import WorkbookSite.Proofs.WellFormedNodes

/-!
# Printed tags

A tag that is printed with fitting names is read back as it was, whatever
follows it.
-/

namespace WorkbookSite.Markup

open Text (isBlank)

theorem isAlpha_of_isLower {character : Char}
    (lower : character.isLower = true) : character.isAlpha = true := by
  simp [Char.isAlpha, lower]

theorem takeWhile_run {test : Char → Bool} {run : List Char}
    (inside : ∀ character ∈ run, test character = true) (rest : List Char)
    (stops : ∀ character ∈ rest.head?, test character = false) :
    (run ++ rest).takeWhile test = run ∧
      (run ++ rest).dropWhile test = rest := by
  rw [List.takeWhile_append_of_pos inside, List.dropWhile_append_of_pos inside]
  cases rest with
  | nil => simp
  | cons character rest => simp [stops character rfl]

theorem IsElementName.tagName?_append {name : String} {rest : List Char}
    (named : IsElementName name)
    (stops : ∀ character ∈ rest.head?, isTagCharacter character = false) :
    tagName? (name.toList ++ rest) = some (name.toList, rest) := by
  obtain ⟨initial, more, spelled, initialLower, moreFit⟩ := named
  have inside : ∀ character ∈ more, isTagCharacter character = true := by
    intro character listed
    rcases moreFit character listed with lower | digit | rfl
    · simp [isTagCharacter, Char.isAlphanum, isAlpha_of_isLower lower]
    · simp [isTagCharacter, Char.isAlphanum, digit]
    · decide
  obtain ⟨taken, left⟩ := takeWhile_run inside rest stops
  rw [spelled, List.cons_append, tagName?,
    if_pos (isAlpha_of_isLower initialLower), taken, left]

theorem value?_printed (value : String) (rest : List Char) :
    value? ('=' :: '"' :: (value.toList.flatMap escapeInValue ++ '"' :: rest))
      = some ⟨'=' :: '"' :: (value.toList.flatMap escapeInValue ++ ['"']),
          value.toList.flatMap escapeInValue, rest⟩ := by
  have unquoted : ∀ character ∈ value.toList.flatMap escapeInValue,
      (character != '"') = true := by
    intro character listed
    obtain ⟨source, -, written⟩ := List.mem_flatMap.mp listed
    apply bne_iff_ne.mpr
    intro same
    subst same
    exact quote_notMem_escapeInValue source written
  have signBlank : isBlank '=' = false := by decide
  have quoteBlank : isBlank '"' = false := by decide
  simp [value?, valueAfterSign?, signBlank, quoteBlank,
    List.dropWhile_append_of_pos unquoted,
    List.takeWhile_append_of_pos unquoted]

theorem printAttribute_append (name value : String) (rest : List Char) :
    printAttribute (name, value) ++ rest =
      ' ' :: (name.toList ++
        '=' :: '"' :: (value.toList.flatMap escapeInValue ++ '"' :: rest)) := by
  simp [printAttribute]

/-- The characters of a fitting name are read as a name, up to an equals
sign. -/
theorem IsAttributeName.spelled {name : String} (named : IsAttributeName name) :
    ∃ initial more, name.toList = initial :: more ∧
      isBlank initial = false ∧
      ∀ character ∈ initial :: more, isAttributeCharacter character = true := by
  obtain ⟨written, inside⟩ := named
  cases spelled : name.toList with
  | nil => exact absurd (String.toList_eq_nil_iff.mp spelled) written
  | cons initial more =>
      rw [spelled] at inside
      refine ⟨initial, more, rfl, (inside initial List.mem_cons_self).1, ?_⟩
      intro character listed
      obtain ⟨blank, excluded, -⟩ := inside character listed
      simp only [List.mem_cons, List.not_mem_nil, or_false, not_or]
        at excluded
      simp [isAttributeCharacter, blank, excluded]

theorem IsAttributeName.attribute?_print {name : String} (value : String)
    (rest : List Char) (named : IsAttributeName name) :
    attribute? (printAttribute (name, value) ++ rest) =
      some (printAttribute (name, value), rest) := by
  obtain ⟨initial, more, spelled, initialBlank, inside⟩ := named.spelled
  have spaceBlank : isBlank ' ' = true := by decide
  have signStops : isAttributeCharacter '=' = false := by decide
  have afterBlanks :
      (printAttribute (name, value) ++ rest).dropWhile isBlank =
        name.toList ++ '=' :: '"' ::
          (value.toList.flatMap escapeInValue ++ '"' :: rest) := by
    rw [printAttribute_append, List.dropWhile_cons_of_pos spaceBlank, spelled,
      List.cons_append, List.dropWhile_cons_of_neg (by simp [initialBlank])]
  have blanks : (printAttribute (name, value) ++ rest).takeWhile isBlank =
      [' '] := by
    rw [printAttribute_append, List.takeWhile_cons_of_pos spaceBlank, spelled,
      List.cons_append, List.takeWhile_cons_of_neg (by simp [initialBlank])]
  rw [← spelled] at inside
  simp only [attribute?, afterBlanks, blanks,
    List.takeWhile_append_of_pos inside, List.dropWhile_append_of_pos inside,
    List.takeWhile_cons_of_neg (Bool.eq_false_iff.mp signStops),
    List.dropWhile_cons_of_neg (Bool.eq_false_iff.mp signStops),
    value?_printed]
  simp [spelled, printAttribute]

theorem IsAttributeName.nextAttribute?_print {name : String} (value : String)
    (rest : List Char) (named : IsAttributeName name) :
    nextAttribute? (printAttribute (name, value) ++ rest) =
      some ((name, value), rest) := by
  obtain ⟨initial, more, spelled, initialBlank, inside⟩ := named.spelled
  have spaceSkipped : isAttributeCharacter ' ' = false := by decide
  have signStops : isAttributeCharacter '=' = false := by decide
  have initialFits := inside initial List.mem_cons_self
  have moreFit : ∀ character ∈ more, isAttributeCharacter character = true :=
    fun character listed => inside character (List.mem_cons_of_mem _ listed)
  have start :
      (printAttribute (name, value) ++ rest).dropWhile
        (fun character => !isAttributeCharacter character) =
      initial :: (more ++
        '=' :: '"' :: (value.toList.flatMap escapeInValue ++ '"' :: rest)) := by
    rw [printAttribute_append,
      List.dropWhile_cons_of_pos (by simp [spaceSkipped]), spelled,
      List.cons_append, List.dropWhile_cons_of_neg (by simp [initialFits])]
  have nameRead : String.ofList (lowercase (initial :: more)) = name := by
    rw [← spelled, named.lowercase_eq, String.ofList_toList]
  have valueRead : String.ofList
      (CharacterReference.decode (value.toList.flatMap escapeInValue)) =
        value := by
    rw [decode_flatMap decode_escapeInValue_append, String.ofList_toList]
  simp only [nextAttribute?, start,
    List.takeWhile_append_of_pos moreFit, List.dropWhile_append_of_pos moreFit,
    List.takeWhile_cons_of_neg (Bool.eq_false_iff.mp signStops),
    List.dropWhile_cons_of_neg (Bool.eq_false_iff.mp signStops),
    value?_printed, List.append_nil, nameRead, valueRead]

theorem attributeSection_eq_nil {source : List Char}
    (ends : attribute? source = none) :
    attributeSection source = ([], source) := by
  rw [attributeSection]
  simp only [ends]

theorem attributeSection_print {attributes : List (String × String)}
    {rest : List Char}
    (named : ∀ pair ∈ attributes, IsAttributeName pair.1)
    (ends : attribute? rest = none) :
    attributeSection (attributes.flatMap printAttribute ++ rest) =
      (attributes.flatMap printAttribute, rest) := by
  induction attributes with
  | nil =>
      rw [List.flatMap_nil, List.nil_append, attributeSection_eq_nil ends]
  | cons pair attributes induction =>
      have read := (named pair List.mem_cons_self).attribute?_print pair.2
        (attributes.flatMap printAttribute ++ rest)
      have more := induction fun other listed =>
        named other (List.mem_cons_of_mem pair listed)
      rw [List.flatMap_cons, List.append_assoc,
        attributeSection_of_attribute? read, more]

theorem readAttributes_print {attributes : List (String × String)}
    (named : ∀ pair ∈ attributes, IsAttributeName pair.1) :
    readAttributes (attributes.flatMap printAttribute) = attributes := by
  induction attributes with
  | nil =>
      rw [List.flatMap_nil, readAttributes]
      rfl
  | cons pair attributes induction =>
      have read := (named pair List.mem_cons_self).nextAttribute?_print pair.2
        (attributes.flatMap printAttribute)
      have more := induction fun other listed =>
        named other (List.mem_cons_of_mem pair listed)
      rw [List.flatMap_cons, readAttributes_of_nextAttribute? read, more]

/-- The end of a start tag as it is printed. -/
def tagClosing (selfClosing : Bool) : List Char :=
  if selfClosing then ['/', '>'] else ['>']

theorem attribute?_of_not_isBlank {initial : Char} {rest : List Char}
    (stops : isBlank initial = false) :
    attribute? (initial :: rest) = none := by
  simp [attribute?, stops]

theorem attribute?_tagClosing (selfClosing : Bool) (rest : List Char) :
    attribute? (tagClosing selfClosing ++ rest) = none := by
  cases selfClosing with
  | true => exact attribute?_of_not_isBlank (by decide)
  | false => exact attribute?_of_not_isBlank (by decide)

theorem startTagEnd?_tagClosing (selfClosing : Bool) (rest : List Char) :
    startTagEnd? (tagClosing selfClosing ++ rest) =
      some (selfClosing, rest) := by
  have slash : isBlank '/' = false := by decide
  have bracket : isBlank '>' = false := by decide
  cases selfClosing with
  | true => simp [startTagEnd?, tagClosing, slash]
  | false => simp [startTagEnd?, tagClosing, bracket]

theorem isTagCharacter_head_printed (attributes : List (String × String))
    (selfClosing : Bool) (rest : List Char) :
    ∀ character ∈ (attributes.flatMap printAttribute ++
        (tagClosing selfClosing ++ rest)).head?,
      isTagCharacter character = false := by
  cases attributes with
  | nil =>
      intro character first
      cases selfClosing with
      | true =>
          cases first
          decide
      | false =>
          cases first
          decide
  | cons pair attributes =>
      intro character first
      have space : ' ' = character := by
        simpa [printAttribute] using first
      rw [← space]
      decide

theorem startTag?_print {name : String} {attributes : List (String × String)}
    (named : IsElementName name)
    (attributesNamed : ∀ pair ∈ attributes, IsAttributeName pair.1)
    (selfClosing : Bool) (rest : List Char) :
    startTag? (name.toList ++ (attributes.flatMap printAttribute ++
        (tagClosing selfClosing ++ rest))) =
      some (⟨name, attributes, selfClosing⟩, rest) := by
  have sectionRead := attributeSection_print attributesNamed
    (attribute?_tagClosing selfClosing rest)
  have nameRead := named.tagName?_append
    (isTagCharacter_head_printed attributes selfClosing rest)
  simp [startTag?, nameRead, sectionRead, startTagEnd?_tagClosing,
    readAttributes_print attributesNamed, named.lowercase_eq]

theorem endTag?_print {name : String} {rest : List Char}
    (named : IsElementName name) :
    endTag? (name.toList ++ '>' :: rest) = some (name, rest) := by
  have stops : ∀ character ∈ ('>' :: rest).head?,
      isTagCharacter character = false := by
    intro character same
    cases same
    decide
  have closingBlank : isBlank '>' = false := by decide
  simp [endTag?, named.tagName?_append stops, closingBlank,
    named.lowercase_eq]

end WorkbookSite.Markup

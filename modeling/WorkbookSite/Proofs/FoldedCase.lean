import WorkbookSite.Proofs.SpelledTags

/-!
# Folded case

Where the parts of an attribute section end does not depend on the case of its
letters: the readers give the same parts for a source in lowercase, in
lowercase.
-/

namespace WorkbookSite.Markup

open Text (isBlank)

/-- What is the same for all letters does not depend on their case. -/
theorem toLower_invariant {α : Type} (test : Char → α) (answer : α)
    (letters : ∀ character : Char, character.isAlpha = true →
      test character = answer) (character : Char) :
    test character.toLower = test character := by
  by_cases capital : character.isUpper = true
  · have letter : character.isAlpha = true := by simp [Char.isAlpha, capital]
    have small : character.toLower.isAlpha = true := by
      apply isAlpha_of_isLower
      rw [Char.isLower_toLower_eq_isAlpha, letter]
    rw [letters character letter, letters character.toLower small]
  · rw [Char.toLower_eq_of_not_isUpper capital]

theorem ne_of_isAlpha {letter other : Char} (isLetter : letter.isAlpha = true)
    (isOther : other.isAlpha = false) : letter ≠ other := by
  rintro rfl
  rw [isLetter] at isOther
  cases isOther

theorem isBlank_of_isAlpha {character : Char}
    (letter : character.isAlpha = true) : isBlank character = false := by
  simp [Char.isAlpha, Char.isUpper, Char.isLower, UInt32.le_iff_toNat_le]
    at letter
  simp [isBlank]
  omega

theorem isAlpha_toLower (character : Char) :
    character.toLower.isAlpha = character.isAlpha :=
  toLower_invariant Char.isAlpha true
    (fun _ letter => letter) character

theorem isTagCharacter_toLower (character : Char) :
    isTagCharacter character.toLower = isTagCharacter character := by
  apply toLower_invariant _ true
  intro other letter
  simp [isTagCharacter, Char.isAlphanum, letter]

theorem isBlank_toLower (character : Char) :
    isBlank character.toLower = isBlank character :=
  toLower_invariant isBlank false
    (fun _ letter => isBlank_of_isAlpha letter) character

theorem isAttributeCharacter_toLower_eq (character : Char) :
    isAttributeCharacter character.toLower =
      isAttributeCharacter character := by
  apply toLower_invariant _ true
  intro other letter
  simp [isAttributeCharacter, isBlank_of_isAlpha letter, ne_of_isAlpha letter]

theorem isBareCharacter_toLower (character : Char) :
    isBareCharacter character.toLower = isBareCharacter character := by
  apply toLower_invariant _ true
  intro other letter
  simp [isBareCharacter, isBlank_of_isAlpha letter, ne_of_isAlpha letter]

theorem toLower_eq_iff {character other : Char}
    (noLetter : other.isAlpha = false) :
    character.toLower = other ↔ character = other := by
  have decided := toLower_invariant (· == other) false
    (fun _ letter => beq_eq_false_iff_ne.mpr (ne_of_isAlpha letter noLetter))
    character
  rw [← beq_iff_eq, decided, beq_iff_eq]

section Runs

variable {test : Char → Bool}

theorem takeWhile_lowercase
    (invariant : ∀ character : Char,
      test character.toLower = test character) (source : List Char) :
    (lowercase source).takeWhile test = lowercase (source.takeWhile test) := by
  have same : test ∘ Char.toLower = test := funext invariant
  rw [lowercase, List.takeWhile_map, same, lowercase]

theorem dropWhile_lowercase
    (invariant : ∀ character : Char,
      test character.toLower = test character) (source : List Char) :
    (lowercase source).dropWhile test = lowercase (source.dropWhile test) := by
  have same : test ∘ Char.toLower = test := funext invariant
  rw [lowercase, List.dropWhile_map, same, lowercase]

end Runs

def ValueSpan.folded (span : ValueSpan) : ValueSpan :=
  ⟨lowercase span.written, lowercase span.value, lowercase span.rest⟩

theorem valueAfterSign?_lowercase (sign source : List Char) :
    valueAfterSign? (lowercase sign) (lowercase source) =
      (valueAfterSign? sign source).map ValueSpan.folded := by
  cases source with
  | nil => rfl
  | cons quote body =>
      by_cases isQuote : quote = '"' ∨ quote = '\''
      · have noLetter : quote.isAlpha = false := by
          rcases isQuote with rfl | rfl <;> decide
        have same : quote.toLower = quote := (toLower_eq_iff noLetter).mpr rfl
        have invariant : ∀ character : Char,
            (character.toLower != quote) = (character != quote) :=
          toLower_invariant (· != quote) true
            fun _ letter => bne_iff_ne.mpr (ne_of_isAlpha letter noLetter)
        have taken := @takeWhile_lowercase (· != quote) invariant body
        have left := @dropWhile_lowercase (· != quote) invariant body
        simp only [lowercase, List.map_cons, same] at taken left ⊢
        simp only [valueAfterSign?, if_pos isQuote, taken, left]
        cases body.dropWhile (· != quote) with
        | nil => rfl
        | cons closing rest => simp [ValueSpan.folded, lowercase, same]
      · have unquoted : ¬ (quote.toLower = '"' ∨ quote.toLower = '\'') := by
          rwa [toLower_eq_iff (by decide), toLower_eq_iff (by decide)]
        have taken := takeWhile_lowercase isBareCharacter_toLower
          (quote :: body)
        have left := dropWhile_lowercase isBareCharacter_toLower
          (quote :: body)
        simp only [lowercase, List.map_cons] at taken left ⊢
        simp only [valueAfterSign?, if_neg isQuote, if_neg unquoted, taken,
          left, List.isEmpty_map]
        split
        · rfl
        · simp [ValueSpan.folded, lowercase]

theorem value?_lowercase (source : List Char) :
    value? (lowercase source) = (value? source).map ValueSpan.folded := by
  have left := dropWhile_lowercase isBlank_toLower source
  cases signed : source.dropWhile isBlank with
  | nil =>
      rw [signed] at left
      rw [value?, left, value?, signed]
      rfl
  | cons sign afterSign =>
      rw [signed] at left
      rw [value?, left, value?, signed]
      simp only [lowercase, List.map_cons]
      by_cases isSign : sign = '='
      · subst isSign
        have after := valueAfterSign?_lowercase
          (source.takeWhile isBlank ++ '=' :: afterSign.takeWhile isBlank)
          (afterSign.dropWhile isBlank)
        have before := takeWhile_lowercase isBlank_toLower source
        have spaces := takeWhile_lowercase isBlank_toLower afterSign
        have rest := dropWhile_lowercase isBlank_toLower afterSign
        rw [lowercase, List.map_append, List.map_cons] at after
        rw [lowercase] at before spaces rest
        rw [if_pos rfl, if_pos (by decide), before, spaces, rest]
        exact after
      · have other : ¬ sign.toLower = '=' := by
          rwa [toLower_eq_iff (by decide)]
        rw [if_neg isSign, if_neg other]
        rfl

theorem attribute?_lowercase (source : List Char) :
    attribute? (lowercase source) =
      (attribute? source).map (Prod.map lowercase lowercase) := by
  have blanks := takeWhile_lowercase isBlank_toLower source
  have afterBlanks := dropWhile_lowercase isBlank_toLower source
  have name := takeWhile_lowercase isAttributeCharacter_toLower_eq
    (source.dropWhile isBlank)
  have afterName := dropWhile_lowercase isAttributeCharacter_toLower_eq
    (source.dropWhile isBlank)
  have valued := value?_lowercase
    ((source.dropWhile isBlank).dropWhile isAttributeCharacter)
  have empty : ∀ text : List Char, (lowercase text).isEmpty = text.isEmpty :=
    fun _ => List.isEmpty_map
  simp only [attribute?, blanks, afterBlanks, name, afterName, valued, empty]
  split
  · rfl
  · cases value? ((source.dropWhile isBlank).dropWhile isAttributeCharacter)
      <;> simp [ValueSpan.folded, lowercase]

theorem attributeSection_lowercase (source : List Char) :
    attributeSection (lowercase source) =
      Prod.map lowercase lowercase (attributeSection source) := by
  fun_induction attributeSection source with
  | case1 source none =>
      have folded := attribute?_lowercase source
      rw [none] at folded
      rw [attributeSection, folded]
      rfl
  | case2 source written rest found shorter more after split induction =>
      have folded := attribute?_lowercase source
      rw [found] at folded
      rw [attributeSection_of_attribute? folded, induction, split]
      simp [lowercase]
  | case3 source written rest found notShorter =>
      exact absurd (attribute?_shorter found) notShorter

end WorkbookSite.Markup

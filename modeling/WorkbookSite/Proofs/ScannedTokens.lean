import WorkbookSite.Proofs.EscapedText
import WorkbookSite.Proofs.SplitText
import WorkbookSite.Proofs.WellFormedNodes

/-!
# Scanned tokens

What the tokens of a source look like.  Names are in lowercase, and the text of
an element that is not read as markup is followed by an end tag or by nothing.
-/

namespace WorkbookSite.Markup

open Text (isBlank)

/-- A start tag with names that can be written in a tag. -/
def StartTag.Fits (tag : StartTag) : Prop :=
  IsElementName tag.name ∧ ∀ pair ∈ tag.attributes, IsAttributeName pair.1

/-- Nothing follows, or an end tag. -/
def StartsEndTag (tokens : List Token) : Prop :=
  ∀ token ∈ tokens.head?, ∃ name, token = .endTag name

/-- The tokens of a source, up to any place. -/
inductive Scanned : List Token → Prop where
  | nil : Scanned []
  | text {content : String} {rest : List Token} (later : Scanned rest) :
      Scanned (.text content :: rest)
  | comment {content : String} {rest : List Token}
      (inside : ¬ "-->".toList <:+: content.toList) (later : Scanned rest) :
      Scanned (.comment content :: rest)
  | endTag {name : String} {rest : List Token} (later : Scanned rest) :
      Scanned (.endTag name :: rest)
  | startTag {tag : StartTag} {rest : List Token} (fits : tag.Fits)
      (plain : tag.selfClosing = true ∨ isVoid tag.name = true ∨
        textMode tag.name = .normal)
      (later : Scanned rest) :
      Scanned (.startTag tag :: rest)
  | body {tag : StartTag} {children : List Node} {rest : List Token}
      (fits : tag.Fits) (opens : tag.selfClosing = false)
      (nonvoid : isVoid tag.name = false)
      (inside : BodyFits tag.name children)
      (wellFormed : ∀ child ∈ children, child.WellFormed)
      (ends : StartsEndTag rest) (later : Scanned rest) :
      Scanned (.startTag tag :: (Node.tokensList children ++ rest))

theorem isBlank_of_isLower {character : Char}
    (lower : character.isLower = true) : isBlank character = false := by
  simp [Char.isLower, UInt32.le_iff_toNat_le] at lower
  simp [isBlank]
  omega

theorem isAttributeCharacter_of_isLower {character : Char}
    (lower : character.isLower = true) :
    isAttributeCharacter character = true := by
  simp only [isAttributeCharacter, isBlank_of_isLower lower, Bool.not_false,
    Bool.true_and, Bool.and_eq_true, bne_iff_ne]
  refine ⟨⟨⟨⟨?_, ?_⟩, ?_⟩, ?_⟩, ?_⟩
  all_goals
    intro same
    subst same
    exact absurd lower (by decide)

theorem isAttributeCharacter_toLower {character : Char}
    (fits : isAttributeCharacter character = true) :
    isAttributeCharacter character.toLower = true := by
  by_cases capital : character.isUpper = true
  · apply isAttributeCharacter_of_isLower
    rw [Char.isLower_toLower_eq_isAlpha]
    simp [Char.isAlpha, capital]
  · rwa [Char.toLower_eq_of_not_isUpper capital]

theorem isAttributeName_lowercase {name : List Char} (written : name ≠ [])
    (fits : ∀ character ∈ name, isAttributeCharacter character = true) :
    IsAttributeName (String.ofList (lowercase name)) := by
  constructor
  · intro empty
    rw [← String.toList_inj, String.toList_ofList] at empty
    exact written (List.map_eq_nil_iff.mp empty)
  · intro character listed
    rw [String.toList_ofList] at listed
    obtain ⟨source, sourceListed, rfl⟩ := List.mem_map.mp listed
    have fit := isAttributeCharacter_toLower (fits source sourceListed)
    simp only [isAttributeCharacter, Bool.and_eq_true, Bool.not_eq_true',
      bne_iff_ne] at fit
    refine ⟨fit.1.1.1.1.1, ?_, Char.isUpper_toLower_eq_false source⟩
    simp [fit]

theorem isAttributeName_of_nextAttribute? {source rest : List Char}
    {pair : String × String}
    (found : nextAttribute? source = some (pair, rest)) :
    IsAttributeName pair.1 := by
  unfold nextAttribute? at found
  split at found
  · contradiction
  · rename_i initial tail start
    have fits : ∀ character ∈ initial :: tail.takeWhile isAttributeCharacter,
        isAttributeCharacter character = true := by
      intro character listed
      rcases List.mem_cons.mp listed with rfl | later
      · have head := List.head?_dropWhile_not
          (fun character => !isAttributeCharacter character) source
        simpa [start] using head
      · exact List.mem_takeWhile_imp later
    have named := isAttributeName_lowercase (List.cons_ne_nil _ _) fits
    simp only at found
    split at found
    · cases found
      exact named
    · cases found
      exact named

theorem isAttributeName_of_mem_readAttributes {source : List Char}
    {pair : String × String} (listed : pair ∈ readAttributes source) :
    IsAttributeName pair.1 := by
  fun_induction readAttributes source with
  | case1 => contradiction
  | case2 source first rest found induction =>
      rcases List.mem_cons.mp listed with rfl | later
      · exact isAttributeName_of_nextAttribute? found
      · split at later
        · rename_i shorter
          exact induction shorter later
        · contradiction

theorem isElementName_of_tagName? {source name rest : List Char}
    (found : tagName? source = some (name, rest)) :
    IsElementName (String.ofList (lowercase name)) := by
  unfold tagName? at found
  split at found
  · contradiction
  · rename_i initial tail
    split at found
    · rename_i letter
      cases found
      refine ⟨initial.toLower,
        lowercase (tail.takeWhile isTagCharacter), ?_, ?_, ?_⟩
      · rw [String.toList_ofList]
        rfl
      · rw [Char.isLower_toLower_eq_isAlpha]
        exact letter
      · intro character listed
        obtain ⟨written, writtenListed, rfl⟩ := List.mem_map.mp listed
        have fit : isTagCharacter written = true :=
          List.mem_takeWhile_imp writtenListed
        rw [Char.isLower_toLower_eq_isAlpha]
        by_cases letter : written.isAlpha = true
        · exact .inl letter
        · have small : ¬ written.isUpper = true := by
            simp_all [Char.isAlpha]
          rw [Char.toLower_eq_of_not_isUpper small]
          simpa [isTagCharacter, Char.isAlphanum, letter] using fit
    · contradiction

theorem fits_of_startTag? {source rest : List Char} {tag : StartTag}
    (found : startTag? source = some (tag, rest)) : tag.Fits := by
  simp only [startTag?, Option.bind_eq_bind, Option.bind_eq_some_iff] at found
  obtain ⟨⟨name, afterName⟩, named, ⟨selfClosing, after⟩, -, result⟩ := found
  cases result
  exact ⟨isElementName_of_tagName? named,
    fun pair listed => isAttributeName_of_mem_readAttributes listed⟩

namespace Token

/-- Where an end tag may start there is an end tag, or scanning fails. -/
theorem startsEndTag_scanRest {name : String} {source : List Char}
    (total : Nat) (starts : startsEndTag name source = true) :
    StartsEndTag (scanRest total source).1 := by
  obtain ⟨rest, written⟩ := startsEndTag_iff.mp starts
  match source with
  | [] => simp [lowercase] at written
  | [_] => simp [lowercase] at written
  | first :: second :: more =>
      simp only [lowercase, List.map_cons, List.cons_append, List.cons.injEq]
        at written
      obtain ⟨firstLowered, secondLowered, -⟩ := written
      obtain rfl := eq_of_toLower_eq (by decide) firstLowered.symm
      obtain rfl := eq_of_toLower_eq (by decide) secondLowered.symm
      have read : ∃ offset,
          readNext total '<' ('/' :: more) = readEndTag offset more :=
        ⟨_, rfl⟩
      obtain ⟨offset, read⟩ := read
      unfold readEndTag at read
      split at read
      · rw [scanRest, read]
        intro token same
        cases same
      · rename_i found tail _
        rw [scanRest_of_readNext read]
        intro token same
        cases same
        exact ⟨found, rfl⟩

theorem scanned_of_readBody {tag : StartTag} {rest after : List Char}
    {read : List Token} {total : Nat} (fits : tag.Fits)
    (opens : tag.selfClosing = false) (nonvoid : isVoid tag.name = false)
    (found : readBody tag rest = .tokens read after)
    (later : Scanned (scanRest total after).1) :
    Scanned (read ++ (scanRest total after).1) := by
  unfold readBody at found
  split at found
  · contradiction
  · rename_i body tail split
    have whole := splitWhere_append split
    obtain ⟨-, starts, -⟩ := splitWhere_eq_some_iff.mp split
    rw [← whole] at split
    obtain ⟨-, noMark⟩ :=
      (splitWhere_endTag_iff _ _ fits.1.less_notMem).mp split
    simp only at found
    split at found
    · cases found
      exact .body fits opens nonvoid (.inl rfl) (List.forall_mem_nil _)
        (startsEndTag_scanRest total starts) later
    · rename_i present
      cases found
      rw [List.isEmpty_iff] at present
      refine .body fits opens nonvoid (.inr ⟨_, rfl, ?_⟩) ?_
        (startsEndTag_scanRest total starts) later
      · intro raw
        rwa [if_pos raw, String.toList_ofList]
      · intro child listed
        obtain rfl := List.mem_singleton.mp listed
        apply Node.WellFormed.text
        rw [Ne, ← String.toList_inj, String.toList_ofList]
        split
        · exact present
        · exact decode_ne_nil present

theorem scanned_of_readStartTag {offset total : Nat}
    {source after : List Char} {read : List Token}
    (found : readStartTag offset source = .tokens read after)
    (later : Scanned (scanRest total after).1) :
    Scanned (read ++ (scanRest total after).1) := by
  unfold readStartTag at found
  split at found
  · contradiction
  · rename_i tag tail started
    have fits := fits_of_startTag? started
    split at found
    · rename_i plain
      cases found
      simp only [Bool.or_eq_true, beq_iff_eq, or_assoc] at plain
      exact .startTag fits plain later
    · rename_i notPlain
      simp only [Bool.or_eq_true, not_or, Bool.not_eq_true] at notPlain
      exact scanned_of_readBody fits notPlain.1.1 notPlain.1.2 found later

theorem scanned_of_readComment {offset total : Nat}
    {source after : List Char} {read : List Token}
    (found : readComment offset source = .tokens read after)
    (later : Scanned (scanRest total after).1) :
    Scanned (read ++ (scanRest total after).1) := by
  unfold readComment at found
  split at found
  · contradiction
  · rename_i body tail split
    cases found
    rw [← splitWhere_append split] at split
    obtain ⟨-, inside⟩ := (splitWhere_commentEnd_iff _ _).mp split
    have unmarked : ¬ "-->".toList <:+: (String.ofList body).toList := by
      rwa [String.toList_ofList (l := body)]
    exact .comment unmarked later

theorem scanned_of_readNext (total : Nat) {character : Char}
    {rest after : List Char} {read : List Token}
    (found : readNext total character rest = .tokens read after)
    (later : Scanned (scanRest total after).1) :
    Scanned (read ++ (scanRest total after).1) := by
  unfold readNext at found
  split at found
  · unfold readMarkup at found
    split at found
    · exact scanned_of_readComment found later
    · unfold readEndTag at found
      split at found
      · contradiction
      · cases found
        exact .endTag later
    · cases found
      exact .text later
    · split at found
      · exact scanned_of_readStartTag found later
      · cases found
        exact .text later
  · cases found
    exact .text later

theorem scanned_scanRest (total : Nat) (source : List Char) :
    Scanned (scanRest total source).1 := by
  fun_induction scanRest total source with
  | case1 => exact .nil
  | case2 character rest error found => exact .nil
  | case3 character rest read after found shorter tokens error split
      induction =>
      have scanned := scanned_of_readNext total found
      rw [split] at scanned induction
      exact scanned induction
  | case4 character rest read after found shorter =>
      have below := readNext_below total character rest
      rw [found] at below
      exact absurd (Nat.le_of_lt_succ below) shorter

end Token

end WorkbookSite.Markup

import Mathlib.Data.String.Basic
import WorkbookSite.Proofs.RespelledNames

/-!
# Byte offsets

Offsets into a text count the bytes of its UTF-8 form.  A text can be cut at an
offset only where a character begins or the text ends; the offset at which a
mark is found is such a place, also if it was found in a copy of the text in
lowercase.
-/

namespace WorkbookSite.Markup

/-- What follows so many bytes of a text.  There is nothing to give if the
offset lies inside a character or behind the end. -/
def dropBytes? : Nat → List Char → Option (List Char)
  | 0, text => some text
  | _ + 1, [] => none
  | count + 1, character :: rest =>
      if character.utf8Size ≤ count + 1 then
        dropBytes? (count + 1 - character.utf8Size) rest
      else none

/-- So many bytes at the start of a text, with the same condition. -/
def takeBytes? : Nat → List Char → Option (List Char)
  | 0, _ => some []
  | _ + 1, [] => none
  | count + 1, character :: rest =>
      if character.utf8Size ≤ count + 1 then
        (takeBytes? (count + 1 - character.utf8Size) rest).map (character :: ·)
      else none

/-- The text between two offsets, the first of which is not behind the
second. -/
def slice? (first last : Nat) (text : List Char) : Option (List Char) :=
  if first ≤ last then (dropBytes? first text).bind (takeBytes? (last - first))
  else none

/-- The offset of the first place where the mark stands. -/
def findBytes? (mark : List Char) : List Char → Option Nat
  | [] => if mark.isPrefixOf [] then some 0 else none
  | character :: rest =>
      if mark.isPrefixOf (character :: rest) then some 0
      else (findBytes? mark rest).map (character.utf8Size + ·)

section Lengths

theorem foldl_utf8Size (text : List Char) (start : Nat) :
    text.foldl (fun total character => total + character.utf8Size) start =
      start + utf8Length text := by
  rw [utf8Length]
  induction text generalizing start with
  | nil => rfl
  | cons character text induction =>
      rw [List.foldl_cons, List.foldl_cons, induction,
        induction (0 + character.utf8Size)]
      omega

@[simp]
theorem utf8Length_nil : utf8Length [] = 0 := rfl

@[simp]
theorem utf8Length_cons (character : Char) (rest : List Char) :
    utf8Length (character :: rest) = character.utf8Size + utf8Length rest := by
  rw [utf8Length, List.foldl_cons, foldl_utf8Size, Nat.zero_add]

@[simp]
theorem utf8Length_append (before after : List Char) :
    utf8Length (before ++ after) = utf8Length before + utf8Length after := by
  rw [utf8Length, List.foldl_append, foldl_utf8Size, ← utf8Length]

theorem utf8Length_pos {text : List Char} (present : text ≠ []) :
    0 < utf8Length text := by
  obtain ⟨character, rest, rfl⟩ := List.exists_cons_of_ne_nil present
  rw [utf8Length_cons]
  have positive := character.utf8Size_pos
  omega

theorem utf8Length_toList (text : String) :
    utf8Length text.toList = text.utf8ByteSize := by
  have counted : ∀ characters : List Char,
      utf8Length characters = String.utf8Len characters := by
    intro characters
    induction characters with
    | nil => rfl
    | cons character characters induction =>
        rw [utf8Length_cons, induction, String.utf8Len_cons, Nat.add_comm]
  rw [counted, ← String.utf8ByteSize_ofList, String.ofList_toList]

end Lengths

section Cuts

theorem dropBytes?_cons (character : Char) (count : Nat) (rest : List Char) :
    dropBytes? (character.utf8Size + count) (character :: rest) =
      dropBytes? count rest := by
  have positive := character.utf8Size_pos
  obtain ⟨size, same⟩ : ∃ size, character.utf8Size + count = size + 1 :=
    ⟨character.utf8Size + count - 1, by omega⟩
  rw [same, dropBytes?, if_pos (by omega), ← same, Nat.add_sub_cancel_left]

theorem takeBytes?_cons (character : Char) (count : Nat) (rest : List Char) :
    takeBytes? (character.utf8Size + count) (character :: rest) =
      (takeBytes? count rest).map (character :: ·) := by
  have positive := character.utf8Size_pos
  obtain ⟨size, same⟩ : ∃ size, character.utf8Size + count = size + 1 :=
    ⟨character.utf8Size + count - 1, by omega⟩
  rw [same, takeBytes?, if_pos (by omega), ← same, Nat.add_sub_cancel_left]

/-- A text can be cut between two characters. -/
@[simp]
theorem dropBytes?_append (before after : List Char) :
    dropBytes? (utf8Length before) (before ++ after) = some after := by
  induction before with
  | nil => rw [utf8Length_nil, List.nil_append, dropBytes?.eq_def]
  | cons character before induction =>
      rw [utf8Length_cons, List.cons_append, dropBytes?_cons, induction]

@[simp]
theorem takeBytes?_append (before after : List Char) :
    takeBytes? (utf8Length before) (before ++ after) = some before := by
  induction before with
  | nil => rw [utf8Length_nil, List.nil_append, takeBytes?.eq_def]
  | cons character before induction =>
      rw [utf8Length_cons, List.cons_append, takeBytes?_cons, induction,
        Option.map_some]

theorem slice?_append (before inside after : List Char) :
    slice? (utf8Length before) (utf8Length before + utf8Length inside)
      (before ++ (inside ++ after)) = some inside := by
  rw [slice?, if_pos (Nat.le_add_right ..), dropBytes?_append,
    Option.bind_some, Nat.add_sub_cancel_left, takeBytes?_append]

theorem exists_of_dropBytes? {count : Nat} {text after : List Char}
    (cut : dropBytes? count text = some after) :
    ∃ before, text = before ++ after ∧ utf8Length before = count := by
  fun_induction dropBytes? count text with
  | case1 text =>
      cases cut
      exact ⟨[], rfl, rfl⟩
  | case2 => cases cut
  | case3 count character rest fits induction =>
      obtain ⟨before, rfl, length⟩ := induction cut
      refine ⟨character :: before, rfl, ?_⟩
      rw [utf8Length_cons]
      omega
  | case4 => cases cut

/-- The offsets at which a text can be cut are its character boundaries. -/
theorem isSome_dropBytes?_iff {count : Nat} {text : String} :
    (dropBytes? count text.toList).isSome = true ↔
      String.Pos.Raw.IsValid text ⟨count⟩ := by
  rw [String.Pos.Raw.isValid_iff_exists_append]
  constructor
  · intro cut
    obtain ⟨after, found⟩ := Option.isSome_iff_exists.mp cut
    obtain ⟨before, whole, length⟩ := exists_of_dropBytes? found
    refine ⟨String.ofList before, String.ofList after, ?_, ?_⟩
    · rw [← String.ofList_append, ← whole, String.ofList_toList]
    · rw [String.Pos.Raw.ext_iff, String.byteIdx_rawEndPos,
        ← utf8Length_toList, String.toList_ofList, length]
  · rintro ⟨before, after, rfl, same⟩
    have length : count = utf8Length before.toList := by
      rw [utf8Length_toList]
      exact congrArg String.Pos.Raw.byteIdx same
    rw [length, String.toList_append, dropBytes?_append]
    rfl

/-- The first character has two bytes. -/
example : dropBytes? 1 "éa".toList = none ∧
    dropBytes? 2 "éa".toList = some ['a'] := by decide

end Cuts

section Marks

/-- A mark is found where the text is split before it.  The text may be changed
before the mark is looked for, as long as no character changes its size. -/
theorem findBytes?_map {change : Char → Char}
    (sized : ∀ character : Char,
      (change character).utf8Size = character.utf8Size)
    (mark text : List Char) :
    findBytes? mark (text.map change) =
      (splitWhere (fun rest => mark.isPrefixOf (rest.map change)) text).map
        fun parts => utf8Length parts.1 := by
  induction text with
  | nil =>
      simp only [List.map_nil, findBytes?, splitWhere]
      split <;> rfl
  | cons character rest induction =>
      rw [List.map_cons, findBytes?, splitWhere, ← List.map_cons]
      split
      · rfl
      · rw [induction, Option.map_map, Option.map_map, sized]
        congr 1
        funext parts
        exact (utf8Length_cons character parts.1).symm

theorem findBytes?_eq (mark text : List Char) :
    findBytes? mark text =
      (splitWhere (mark.isPrefixOf ·) text).map
        fun parts => utf8Length parts.1 := by
  simpa using @findBytes?_map id (fun _ => rfl) mark text

/-- The place where an end tag may start is found in the text in lowercase. -/
theorem findBytes?_endTag {name : String}
    (small : lowercase name.toList = name.toList) (text : List Char) :
    findBytes? (lowercase ('<' :: '/' :: name.toList)) (lowercase text) =
      (splitWhere (startsEndTag name) text).map
        fun parts => utf8Length parts.1 := by
  have mark : lowercase ('<' :: '/' :: name.toList) =
      '<' :: '/' :: name.toList := by
    rw [lowercase, List.map_cons, List.map_cons, ← lowercase, small]
    rfl
  have starts : (fun rest : List Char =>
      ('<' :: '/' :: name.toList).isPrefixOf (rest.map Char.toLower)) =
        startsEndTag name := by
    funext rest
    rw [Bool.eq_iff_iff, List.isPrefixOf_iff_prefix, startsEndTag_iff,
      lowercase]
  rw [mark, lowercase, findBytes?_map utf8Size_toLower, starts]

/-- The first bracket stands behind the characters that are none. -/
theorem findBytes?_bracket (text : List Char) :
    findBytes? ['<'] text =
      if '<' ∈ text then some (utf8Length (text.takeWhile (· != '<')))
      else none := by
  induction text with
  | nil => rfl
  | cons character rest induction =>
      rw [findBytes?]
      by_cases bracket : character = '<'
      · subst bracket
        simp
      · have other : ('<' == character) = false := by
          simpa using Ne.symm bracket
        have taken : (character :: rest).takeWhile (· != '<') =
            character :: rest.takeWhile (· != '<') := by
          rw [List.takeWhile_cons, if_pos (bne_iff_ne.mpr bracket)]
        rw [taken, induction]
        by_cases later : '<' ∈ rest
        · simp [later, Ne.symm bracket]
        · simp [later, Ne.symm bracket]

end Marks

end WorkbookSite.Markup

import WorkbookSite.Proofs.ReadingRounds

/-!
# Offsets of faults

Where a source cannot be read any further, the error says at which byte.  A
bracket stands there, and the text before it is split into tokens without a
gap, whatever characters it has.
-/

namespace WorkbookSite.Markup

open CharacterReference (decode)

/-- The tokens of the source spell it up to `rest`, which begins at the
offset. -/
structure TokensUpTo (source rest : List Char) (offset : Nat) : Prop where
  before : ∃ before, source = before ++ rest ∧ utf8Length before = offset
  spelled : Spelled source (Token.scan source).1 rest

/-- An error that gives an offset is right about it.  No tag can be read at a
malformed tag, and no mark that ends a comment stands behind the start of one
that is not terminated. -/
def FragmentError.Placed (source : List Char) : FragmentError → Prop
  | .malformedTag offset =>
      ∃ after, TokensUpTo source ('<' :: after) offset ∧
        startTagPattern.match? ('<' :: after) = none ∧
        endTagPattern.match? ('<' :: after) = none
  | .unterminatedComment offset =>
      ∃ after, TokensUpTo source ("<!--".toList ++ after) offset ∧
        ∀ early late, source = early ++ ("-->".toList ++ late) →
          utf8Length early < offset + 4
  | _ => True

theorem splitWhere_eq_none {starts : List Char → Bool}
    {before after : List Char}
    (never : splitWhere starts (before ++ after) = none) :
    starts after = false := by
  induction before with
  | nil =>
      rw [List.nil_append] at never
      by_contra starting
      cases after <;> simp_all [splitWhere]
  | cons character before induction =>
      rw [List.cons_append, splitWhere] at never
      split at never
      · cases never
      · exact induction (Option.map_eq_none_iff.mp never)

theorem Spelled.suffix {source rest : List Char} {tokens : List Token}
    (spelled : Spelled source tokens rest) : rest <:+ source := by
  induction spelled with
  | stop rest => exact List.suffix_rfl
  | text present plain ends later induction =>
      exact induction.trans (List.suffix_append _ _)
  | bracket alone later induction =>
      exact induction.trans (List.suffix_cons _ _)
  | comment inside later induction =>
      simp only [← List.append_assoc]
      exact induction.trans (List.suffix_append _ _)
  | endTag spelled later induction =>
      exact induction.trans (List.suffix_append _ _)
  | startTag spelled plain later induction =>
      exact induction.trans (List.suffix_append _ _)
  | body spelled notPlain inside ends later induction =>
      rw [← List.append_assoc]
      exact induction.trans (List.suffix_append _ _)

namespace Token

theorem exists_of_scanRest_error {total : Nat} {source : List Char}
    {error : FragmentError} (failed : (scanRest total source).2 = some error) :
    ∃ character rest, readNext total character rest = .failed error ∧
      Spelled source (scanRest total source).1 (character :: rest) := by
  fun_induction scanRest total source with
  | case1 => cases failed
  | case2 character rest error' found =>
      cases failed
      exact ⟨character, rest, found, .stop _⟩
  | case3 character rest read after found shorter tokens error' split
      induction =>
      rw [split] at induction
      obtain ⟨initial, left, fails, spelled⟩ := induction failed
      exact ⟨initial, left, fails, spells_of_readNext total found spelled⟩
  | case4 => cases failed

theorem eq_of_readComment_failed {offset : Nat} {source : List Char}
    {error : FragmentError}
    (failed : readComment offset source = .failed error) :
    error = .unterminatedComment offset ∧
      ∀ body after, source ≠ body ++ ("-->".toList ++ after) := by
  unfold readComment at failed
  split at failed
  · rename_i never
    cases failed
    refine ⟨rfl, ?_⟩
    rintro body after rfl
    have ends := splitWhere_eq_none never
    rw [List.isPrefixOf_iff_prefix.mpr (List.prefix_append _ _)] at ends
    cases ends
  · cases failed

theorem eq_of_readEndTag_failed {offset : Nat} {source : List Char}
    {error : FragmentError}
    (failed : readEndTag offset source = .failed error) :
    error = .malformedTag offset ∧ endTag? source = none := by
  unfold readEndTag at failed
  split at failed
  · rename_i never
    cases failed
    exact ⟨rfl, never⟩
  · cases failed

theorem eq_of_readStartTag_failed {offset : Nat} {source : List Char}
    {error : FragmentError}
    (failed : readStartTag offset source = .failed error) :
    (error = .malformedTag offset ∧ startTag? source = none) ∨
      ∃ name, error = .unclosed name := by
  unfold readStartTag at failed
  split at failed
  · rename_i never
    cases failed
    exact .inl ⟨rfl, never⟩
  · rename_i tag rest started
    split at failed
    · cases failed
    · unfold readBody at failed
      split at failed
      · cases failed
        exact .inr ⟨tag.name, rfl⟩
      · simp only at failed
        split at failed <;> cases failed

end Token

section Patterns

open Text.Pattern

theorem match?_startTagPattern_of_startTag? {source : List Char}
    (never : startTag? source = none) :
    startTagPattern.match? ('<' :: source) = none := by
  rwa [startTag?_eq_match?, Option.map_eq_none_iff] at never

theorem startTag?_slash (source : List Char) :
    startTag? ('/' :: source) = none := by
  have noName : tagName? ('/' :: source) = none := by
    rw [tagName?, if_neg (by decide)]
  rw [startTag?, noName]
  rfl

theorem match?_endTagPattern_of_ne {initial : Char}
    (other : initial ≠ '/') (rest : List Char) :
    endTagPattern.match? ('<' :: initial :: rest) = none := by
  rw [match?_eq, endTagPattern, thenTry_sequence, thenTry_literal_cons,
    if_pos rfl, thenTry_sequence, thenTry_literal_cons, if_neg other]

end Patterns

section Places

/-- A mark that begins behind a part of a source is in what follows it. -/
theorem utf8Length_lt_of_never {front body mark : List Char}
    (never : ∀ before after, body ≠ before ++ (mark ++ after))
    {early late : List Char} (whole : front ++ body = early ++ (mark ++ late)) :
    utf8Length early < utf8Length front := by
  obtain ⟨before, rfl, inside⟩ | ⟨overlap, rfl, across⟩ :=
    List.append_eq_append_iff.mp whole
  · exact absurd inside (never before late)
  · have present : overlap ≠ [] := by
      rintro rfl
      exact never [] late across.symm
    rw [utf8Length_append]
    exact Nat.lt_add_of_pos_right (utf8Length_pos present)

variable {source : List Char} {error : FragmentError}

theorem placed_of_readMarkup {before rest : List Char}
    (spelled : Spelled (before ++ '<' :: rest)
      (Token.scan (before ++ '<' :: rest)).1 ('<' :: rest))
    (failed : Token.readMarkup (utf8Length before) rest = .failed error) :
    error.Placed (before ++ '<' :: rest) := by
  have upTo : TokensUpTo (before ++ '<' :: rest) ('<' :: rest)
      (utf8Length before) := ⟨⟨before, rfl, rfl⟩, spelled⟩
  rw [Token.readMarkup.eq_def] at failed
  split at failed
  · rename_i body
    obtain ⟨rfl, never⟩ := Token.eq_of_readComment_failed failed
    refine ⟨body, upTo, ?_⟩
    intro early late whole
    have cut : before ++ ['<', '!', '-', '-'] ++ body =
        early ++ ("-->".toList ++ late) := by
      rw [← whole, List.append_assoc]
      rfl
    have length := utf8Length_lt_of_never never cut
    rwa [utf8Length_append] at length
  · rename_i more
    obtain ⟨rfl, never⟩ := Token.eq_of_readEndTag_failed failed
    rw [endTag?_eq_match?, Option.map_eq_none_iff] at never
    exact ⟨_, upTo,
      match?_startTagPattern_of_startTag? (startTag?_slash more), never⟩
  · cases failed
  · rename_i initial more noComment noSlash
    split at failed
    · obtain ⟨rfl, never⟩ | ⟨name, rfl⟩ :=
        Token.eq_of_readStartTag_failed failed
      · exact ⟨_, upTo, match?_startTagPattern_of_startTag? never,
          match?_endTagPattern_of_ne noSlash more⟩
      · trivial
    · cases failed

theorem placed_of_scan (failed : (Token.scan source).2 = some error) :
    error.Placed source := by
  obtain ⟨character, rest, failed, spelled⟩ :=
    Token.exists_of_scanRest_error failed
  obtain ⟨before, rfl⟩ := spelled.suffix
  unfold Token.readNext at failed
  split at failed
  · rename_i bracket
    subst bracket
    rw [utf8Length_append, Nat.add_sub_cancel_right] at failed
    exact placed_of_readMarkup spelled failed
  · cases failed

theorem placed_of_take {assembly : Assembly} {token : Token}
    (refused : assembly.take token = .error error) : error.Placed source := by
  cases token with
  | text content => cases refused
  | comment content => cases refused
  | startTag tag => cases refused
  | endTag name =>
      simp only [Assembly.take, Assembly.takeEndTag] at refused
      split at refused
      · cases refused
        trivial
      · split at refused
        · cases refused
          trivial
        · split at refused
          · cases refused
          · cases refused
            trivial

theorem placed_of_foldlM {assembly : Assembly} {tokens : List Token}
    (refused : tokens.foldlM Assembly.take assembly = .error error) :
    error.Placed source := by
  induction tokens generalizing assembly with
  | nil => cases refused
  | cons token tokens induction =>
      rw [List.foldlM_cons] at refused
      obtain here | ⟨next, -, later⟩ := Outcome.bind_eq_error.mp refused
      · exact placed_of_take here
      · exact induction later

theorem placed_of_finish {assembly : Assembly}
    (refused : assembly.finish = .error error) : error.Placed source := by
  unfold Assembly.finish at refused
  simp only at refused
  split at refused
  · cases refused
  · cases refused
    trivial

theorem placed_of_takeRest
    (refused : takeRest (utf8Length source) {} source = .error error) :
    error.Placed source := by
  obtain refused | ⟨assembly, -, refused⟩ := Outcome.bind_eq_error.mp refused
  · exact placed_of_foldlM refused
  · split at refused
    · rename_i fault failed
      cases refused
      exact placed_of_scan failed
    · cases refused

end Places

theorem parseMarkup_eq_takeRest (source : List Char) :
    Fragment.parseMarkup source =
      takeRest (utf8Length source) {} source >>= Assembly.finish := by
  rw [Fragment.parseMarkup, takeRest, Token.scan]
  simp only [bind_assoc]
  congr 1
  funext assembly
  cases (Token.scanRest (utf8Length source) source).2 <;> rfl

/-- In a context that is read as markup, every round starts between two
characters or at the end, and it fails, takes the rest of the source as text, or
moves the reader forward.  The loop ends, with the nodes or the error of the
fragment, and the offset in an error is right. -/
theorem Fragment.parse_in_rounds (source context : String)
    (normal : textMode context = .normal) :
    (∀ reader, Reader.Reached source.toList reader →
      String.Pos.Raw.IsValid source ⟨reader.position⟩ ∧
        (reader.position < source.utf8ByteSize →
          reader.Advances source.toList (reader.round? source.toList))) ∧
      (∃ result, Reader.Ends source.toList {} result ∧
        Fragment.parse source context = result >>= Assembly.finish) ∧
      ∀ error, Fragment.parse source context = .error error →
        error.Placed source.toList := by
  have parsed : Fragment.parse source context =
      takeRest (utf8Length source.toList) {} source.toList >>=
        Assembly.finish := by
    rw [← parseMarkup_eq_takeRest, Fragment.parse, normal]
  refine ⟨?rounds, ?ends, ?placed⟩
  case rounds =>
    intro reader reached
    constructor
    · obtain ⟨before, after, whole, position⟩ := reached.exists_append
      rw [← isSome_dropBytes?_iff, position, whole, dropBytes?_append]
      rfl
    · rw [← utf8Length_toList]
      exact reached.advances
  case ends => exact ⟨_, ends_takeRest [] source.toList {}, parsed⟩
  case placed =>
    intro error refused
    rw [parsed] at refused
    obtain reading | ⟨assembly, -, finishing⟩ :=
      Outcome.bind_eq_error.mp refused
    · exact placed_of_takeRest reading
    · exact placed_of_finish finishing

/-- A character of two bytes, an element, and a comment that never ends. -/
def openComment : String := "é<b>x</b><!-- y"

theorem openComment_in_rounds :
    textMode "div" = .normal ∧
      Fragment.parse openComment "div" = .error (.unterminatedComment 10) ∧
      Reader.Reached openComment.toList
        ⟨2, ({} : Assembly).takeText (decode ['é'])⟩ ∧
      String.Pos.Raw.IsValid openComment ⟨2⟩ ∧
      (∃ result, Reader.Ends openComment.toList {} result ∧
        Fragment.parse openComment "div" = result >>= Assembly.finish) ∧
      FragmentError.Placed openComment.toList (.unterminatedComment 10) := by
  have normal : textMode "div" = .normal := by decide
  have refused : Fragment.parse openComment "div" =
      .error (.unterminatedComment 10) :=
    Outcome.failure?_eq_some_iff.mp (by decide +kernel)
  have reached : Reader.Reached openComment.toList
      ⟨2, ({} : Assembly).takeText (decode ['é'])⟩ :=
    .next .start (by decide +kernel) rfl
  obtain ⟨rounds, ends, places⟩ :=
    Fragment.parse_in_rounds openComment "div" normal
  exact ⟨normal, refused, reached, (rounds _ reached).1, ends,
    places _ refused⟩

end WorkbookSite.Markup

import WorkbookSite.Proofs.ScannedTokens
import WorkbookSite.Proofs.SpelledTags

/-!
# Spelled tokens

The grammar of a source, said without the readers: its tokens stand one after
the other, and nothing of it lies between them.  The tokens that are scanned
spell the source up to the place where scanning ends.
-/

namespace WorkbookSite.Markup

open CharacterReference (decode)

/-- The start tag stands for a whole element, or what follows it is markup. -/
def StartTag.Plain (tag : StartTag) : Prop :=
  tag.selfClosing = true ∨ isVoid tag.name = true ∨
    textMode tag.name = .normal

/-- The text of an element that is not read as markup: one token, or none if
there is no text. -/
def bodyTokens (name : String) (body : List Char) : List Token :=
  if body = [] then []
  else
    [.text (String.ofList (if textMode name = .raw then body else decode body))]

/-- A source spells the tokens up to the rest that is given last.  Text runs up
to the next bracket, a comment up to the mark that ends it, and the text of an
element that is not read as markup up to where an end tag of the element may
start. -/
inductive Spelled : List Char → List Token → List Char → Prop where
  | stop (rest : List Char) : Spelled rest [] rest
  | text {run middle rest : List Char} {tokens : List Token}
      (present : run ≠ []) (plain : '<' ∉ run)
      (ends : ∀ character ∈ middle.head?, character = '<')
      (later : Spelled middle tokens rest) :
      Spelled (run ++ middle) (.text (String.ofList (decode run)) :: tokens)
        rest
  | bracket {middle rest : List Char} {tokens : List Token}
      (alone : ∀ character ∈ middle.head?,
        character.isAlpha = false ∧ character ≠ '!' ∧ character ≠ '/')
      (later : Spelled middle tokens rest) :
      Spelled ('<' :: middle) (.text "<" :: tokens) rest
  | comment {body middle rest : List Char} {tokens : List Token}
      (inside : ¬ "-->".toList <:+: body) (later : Spelled middle tokens rest) :
      Spelled ("<!--".toList ++ (body ++ ("-->".toList ++ middle)))
        (.comment (String.ofList body) :: tokens) rest
  | endTag {written middle rest : List Char} {name : String}
      {tokens : List Token} (spelled : EndTagSpelled written name)
      (later : Spelled middle tokens rest) :
      Spelled (written ++ middle) (.endTag name :: tokens) rest
  | startTag {written middle rest : List Char} {tag : StartTag}
      {tokens : List Token} (spelled : StartTagSpelled written tag)
      (plain : tag.Plain) (later : Spelled middle tokens rest) :
      Spelled (written ++ middle) (.startTag tag :: tokens) rest
  | body {written body middle rest : List Char} {tag : StartTag}
      {tokens : List Token} (spelled : StartTagSpelled written tag)
      (notPlain : ¬ tag.Plain)
      (inside : ¬ '<' :: '/' :: tag.name.toList <:+: lowercase body)
      (ends : '<' :: '/' :: tag.name.toList <+: lowercase middle)
      (later : Spelled middle tokens rest) :
      Spelled (written ++ (body ++ middle))
        (.startTag tag :: (bodyTokens tag.name body ++ tokens)) rest

theorem Spelled.text_ne_empty {source rest : List Char} {tokens : List Token}
    (spelled : Spelled source tokens rest) :
    ∀ token ∈ tokens, token ≠ .text "" := by
  have written : ∀ {text : List Char}, text ≠ [] →
      Token.text (String.ofList text) ≠ .text "" := by
    intro text present same
    rw [Token.text.injEq, ← String.toList_inj, String.toList_ofList] at same
    exact present same
  induction spelled with
  | stop rest => exact List.forall_mem_nil _
  | text present plain ends later induction =>
      exact List.forall_mem_cons.mpr
        ⟨written (decode_ne_nil present), induction⟩
  | bracket alone later induction =>
      exact List.forall_mem_cons.mpr ⟨by decide, induction⟩
  | comment inside later induction =>
      exact List.forall_mem_cons.mpr ⟨nofun, induction⟩
  | endTag spelled later induction =>
      exact List.forall_mem_cons.mpr ⟨nofun, induction⟩
  | startTag spelled plain later induction =>
      exact List.forall_mem_cons.mpr ⟨nofun, induction⟩
  | @body _ body _ _ tag _ spelled notPlain inside ends later induction =>
      refine List.forall_mem_cons.mpr ⟨nofun, ?_⟩
      intro token listed
      rcases List.mem_append.mp listed with ofBody | after
      · unfold bodyTokens at ofBody
        split at ofBody
        · cases ofBody
        · rename_i present
          obtain rfl := List.mem_singleton.mp ofBody
          apply written
          split
          · exact present
          · exact decode_ne_nil present
      · exact induction token after

namespace Token

/-- Reading the next tokens spells what comes before the rest. -/
def Spells (source : List Char) (read : List Token) (after : List Char) :
    Prop :=
  ∀ {tokens rest}, Spelled after tokens rest →
    Spelled source (read ++ tokens) rest

theorem spells_of_readComment {offset : Nat} {source after : List Char}
    {read : List Token}
    (found : readComment offset source = .tokens read after) :
    Spells ('<' :: '!' :: '-' :: '-' :: source) read after := by
  unfold readComment at found
  split at found
  · cases found
  · rename_i body tail split
    cases found
    have whole := splitWhere_append split
    rw [← whole] at split
    obtain ⟨⟨middle, rfl⟩, inside⟩ :=
      (splitWhere_commentEnd_iff body tail).mp split
    intro tokens rest later
    rw [← whole]
    exact .comment inside later

theorem spells_of_readEndTag {offset : Nat} {source after : List Char}
    {read : List Token}
    (found : readEndTag offset source = .tokens read after) :
    Spells ('<' :: '/' :: source) read after := by
  unfold readEndTag at found
  split at found
  · cases found
  · rename_i name tail ended
    cases found
    obtain ⟨written, whole, spelled⟩ := EndTagSpelled.of_endTag? ended
    intro tokens rest later
    rw [whole]
    exact .endTag spelled later

theorem spells_of_readBody {written source after : List Char}
    {tag : StartTag} {read : List Token}
    (spelled : StartTagSpelled written tag) (notPlain : ¬ tag.Plain)
    (single : '<' ∉ tag.name.toList)
    (found : readBody tag source = .tokens read after) :
    Spells (written ++ source) read after := by
  unfold readBody at found
  split at found
  · cases found
  · rename_i body tail split
    have whole := splitWhere_append split
    rw [← whole] at split
    obtain ⟨ends, inside⟩ := (splitWhere_endTag_iff body tail single).mp split
    have tokensRead : read = .startTag tag :: bodyTokens tag.name body ∧
        tail = after := by
      simp only at found
      split at found
      · rename_i none
        cases found
        simp [bodyTokens, List.isEmpty_iff.mp none]
      · rename_i present
        rw [List.isEmpty_iff] at present
        cases found
        simp [bodyTokens, present]
    obtain ⟨rfl, rfl⟩ := tokensRead
    intro tokens rest later
    rw [← whole]
    exact .body spelled notPlain inside ends later

theorem spells_of_readStartTag {offset : Nat} {source after : List Char}
    {read : List Token}
    (found : readStartTag offset source = .tokens read after) :
    Spells ('<' :: source) read after := by
  unfold readStartTag at found
  split at found
  · cases found
  · rename_i tag tail started
    obtain ⟨written, whole, spelled⟩ := StartTagSpelled.of_startTag? started
    rw [whole]
    split at found
    · rename_i plain
      simp only [Bool.or_eq_true, beq_iff_eq, or_assoc] at plain
      cases found
      exact .startTag spelled plain
    · rename_i notPlain
      simp only [Bool.or_eq_true, beq_iff_eq, or_assoc] at notPlain
      exact spells_of_readBody spelled notPlain
        (fits_of_startTag? started).1.less_notMem found

theorem spells_of_readNext (total : Nat) {character : Char}
    {source after : List Char} {read : List Token}
    (found : readNext total character source = .tokens read after) :
    Spells (character :: source) read after := by
  unfold readNext at found
  split at found
  · rename_i bracket
    subst bracket
    unfold readMarkup at found
    split at found
    · exact spells_of_readComment found
    · exact spells_of_readEndTag found
    · cases found
      exact .bracket nofun
    · rename_i initial more _ noSlash
      split at found
      · exact spells_of_readStartTag found
      · rename_i alone
        simp only [Bool.or_eq_true, beq_iff_eq, not_or, Bool.not_eq_true]
          at alone
        cases found
        refine .bracket ?_
        intro first same
        cases same
        exact ⟨alone.1, alone.2, noSlash⟩
  · rename_i noBracket
    cases found
    have plain : '<' ∉ character :: source.takeWhile (· != '<') := by
      rw [List.mem_cons, not_or]
      refine ⟨Ne.symm noBracket, ?_⟩
      intro listed
      simpa using List.mem_takeWhile_imp listed
    have ends : ∀ first ∈ (source.dropWhile (· != '<')).head?, first = '<' := by
      intro first head
      simpa using head?_dropWhile_eq_false (· != '<') source first head
    intro tokens rest later
    have spelled := Spelled.text (List.cons_ne_nil _ _) plain ends later
    rwa [List.cons_append, List.takeWhile_append_dropWhile] at spelled

/-- The tokens that are scanned spell the source up to the place where scanning
ends, which is the end of the source unless something is wrong there. -/
theorem exists_spelled_scanRest (total : Nat) (source : List Char) :
    ∃ rest, Spelled source (scanRest total source).1 rest ∧
      ((scanRest total source).2 = none → rest = []) := by
  fun_induction scanRest total source with
  | case1 => exact ⟨[], .stop [], fun _ => rfl⟩
  | case2 character rest error found =>
      exact ⟨character :: rest, .stop _, by simp⟩
  | case3 character rest read after found shorter tokens error split
      induction =>
      obtain ⟨left, later, ends⟩ := induction
      rw [split] at later ends
      exact ⟨left, spells_of_readNext total found later, ends⟩
  | case4 character rest read after found shorter =>
      have below := readNext_below total character rest
      rw [found] at below
      exact absurd (Nat.le_of_lt_succ below) shorter

theorem spelled_of_scan {source : List Char} {tokens : List Token}
    (scanned : scan source = (tokens, none)) : Spelled source tokens [] := by
  obtain ⟨rest, spelled, ends⟩ :=
    exists_spelled_scanRest (utf8Length source) source
  rw [scan] at scanned
  rw [scanned] at spelled ends
  obtain rfl := ends rfl
  exact spelled

end Token

end WorkbookSite.Markup

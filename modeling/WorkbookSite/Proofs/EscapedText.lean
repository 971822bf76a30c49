import WorkbookSite.Markup.CharacterReference
import WorkbookSite.Markup.Printer

/-!
# Escaped text

Decoding character references undoes both ways of escaping.  Escaped text opens
no tag, and an escaped value does not end at a quote of its own.
-/

namespace WorkbookSite.Markup

open CharacterReference

theorem decode_cons_of_ne {character : Char} {rest : List Char}
    (plain : character ≠ '&') :
    decode (character :: rest) = character :: decode rest := by
  rw [decode, decodeAfter, if_neg plain]
  rfl

theorem body?_append {body : List Char} (rest : List Char)
    (noEnd : ∀ character ∈ body, character ≠ ';' ∧ character ≠ '&') :
    body? (body ++ ';' :: rest) = some body := by
  induction body with
  | nil => simp [body?]
  | cons character body induction =>
      obtain ⟨noSemicolon, noAmpersand⟩ :=
        noEnd character List.mem_cons_self
      have after := induction fun other listed =>
        noEnd other (List.mem_cons_of_mem character listed)
      simp [body?, noSemicolon, noAmpersand, after]

theorem decode_reference (body : List Char) {named : Char} (rest : List Char)
    (noEnd : ∀ character ∈ body, character ≠ ';' ∧ character ≠ '&')
    (found : character? body = some named) :
    decode ('&' :: (body ++ ';' :: rest)) = named :: decode rest := by
  have reference :
      reference? (body ++ ';' :: rest) = some (named, body.length + 1) := by
    simp [reference?, body?_append rest noEnd, found]
  have taken : (body ++ ';' :: rest).drop (body.length + 1) = rest := by
    rw [← List.drop_drop, List.drop_left]
    rfl
  rw [decode, decodeAfter, if_pos rfl, reference]
  simp only
  rw [decodeAfter_eq_decode_drop, taken]

theorem decode_escapeInText_append (character : Char) (rest : List Char) :
    decode (escapeInText character ++ rest) = character :: decode rest := by
  unfold escapeInText
  split
  · next ampersand =>
      rw [ampersand]
      exact decode_reference "amp".toList rest
        (by simp) (by decide)
  split
  · next less =>
      rw [less]
      exact decode_reference "lt".toList rest
        (by simp) (by decide)
  split
  · next greater =>
      rw [greater]
      exact decode_reference "gt".toList rest
        (by simp) (by decide)
  split
  · next space =>
      rw [space]
      exact decode_reference "nbsp".toList rest
        (by simp) (by decide)
  · next plain _ _ _ => exact decode_cons_of_ne plain

theorem decode_escapeInValue_append (character : Char) (rest : List Char) :
    decode (escapeInValue character ++ rest) = character :: decode rest := by
  unfold escapeInValue
  split
  · next quote =>
      rw [quote]
      exact decode_reference "quot".toList rest
        (by simp) (by decide)
  · exact decode_escapeInText_append character rest

theorem decode_ne_nil {text : List Char} (written : text ≠ []) :
    decode text ≠ [] := by
  cases text with
  | nil => exact absurd rfl written
  | cons character rest =>
      rw [decode, decodeAfter]
      split
      · split <;> exact List.cons_ne_nil _ _
      · exact List.cons_ne_nil _ _

/-- Decoding undoes every way of escaping that it undoes character by
character. -/
theorem decode_flatMap {escape : Char → List Char}
    (undone : ∀ character rest,
      decode (escape character ++ rest) = character :: decode rest)
    (text : List Char) :
    decode (text.flatMap escape) = text := by
  induction text with
  | nil => rfl
  | cons character text induction =>
      rw [List.flatMap_cons, undone, induction]

theorem less_notMem_escapeInText (character : Char) :
    '<' ∉ escapeInText character := by
  unfold escapeInText
  repeat' split
  all_goals simp_all [eq_comm]

theorem quote_notMem_escapeInValue (character : Char) :
    '"' ∉ escapeInValue character := by
  unfold escapeInValue escapeInText
  repeat' split
  all_goals simp_all [eq_comm]

theorem escapeInText_ne_nil (character : Char) :
    escapeInText character ≠ [] := by
  unfold escapeInText
  repeat' split
  all_goals simp

end WorkbookSite.Markup

import Mathlib.Data.List.Lex
import Mathlib.Data.String.Basic
import Mathlib.Data.UInt
import WorkbookSite.Files.Path

/-!
# Order of paths

Paths are ordered component by component, and names by the bytes of their UTF-8
encoding.  A character with a larger code has larger bytes, so names have the
order of their characters.  This is not the order of the texts of paths, where
a slash counts as a character.
-/

namespace WorkbookSite

namespace Text

def utf8Bytes (text : String) : List UInt8 := text.toUTF8.data.toList

theorem utf8Bytes_eq_flatMap (text : String) :
    utf8Bytes text = text.toList.flatMap String.utf8EncodeChar := by
  rw [utf8Bytes, String.toUTF8, ← String.utf8Encode_toList, List.utf8Encode,
    List.data_toByteArray]

theorem ofNat_cons_lt {first second : Nat} {firsts seconds : List UInt8}
    (small : second < 256)
    (less : first < second ∨ first = second ∧ firsts < seconds) :
    UInt8.ofNat first :: firsts < UInt8.ofNat second :: seconds := by
  rw [List.cons_lt_cons_iff]
  rcases less with here | ⟨rfl, later⟩
  · left
    rw [UInt8.lt_iff_toNat_lt, UInt8.toNat_ofNat', UInt8.toNat_ofNat']
    omega
  · exact .inr ⟨rfl, later⟩

theorem div_or_mod_lt {first second : Nat} (less : first < second)
    (base : Nat) :
    first / base < second / base ∨
      first / base = second / base ∧ first % base < second % base := by
  rcases lt_or_eq_of_le
      (Nat.div_le_div_right less.le : first / base ≤ second / base) with
    larger | same
  · exact .inl larger
  · refine .inr ⟨same, ?_⟩
    have one := Nat.div_add_mod first base
    have other := Nat.div_add_mod second base
    rw [same] at one
    omega

/-- The bytes after the first one in the encoding of a character. -/
def continuation (code : Nat) : Nat → List UInt8
  | 0 => []
  | count + 1 =>
      UInt8.ofNat (code / 64 ^ count % 64 + 128) :: continuation code count

theorem continuation_append_lt {first second count : Nat}
    (less : first % 64 ^ count < second % 64 ^ count)
    (firsts seconds : List UInt8) :
    continuation first count ++ firsts <
      continuation second count ++ seconds := by
  induction count with
  | zero => simp [Nat.mod_one] at less
  | succ count induction =>
      apply ofNat_cons_lt (by omega)
      have digits := div_or_mod_lt less (64 ^ count)
      rw [Nat.pow_succ, Nat.mod_mul_right_div_self, Nat.mod_mul_right_div_self,
        Nat.mod_mul_right_mod, Nat.mod_mul_right_mod] at digits
      rcases digits with larger | ⟨same, smaller⟩
      · left
        omega
      · right
        exact ⟨by omega, induction smaller⟩

theorem lead_append_lt {first second : Nat} (less : first < second)
    (count offset : Nat) (small : second / 64 ^ count + offset < 256)
    (firsts seconds : List UInt8) :
    UInt8.ofNat (first / 64 ^ count + offset) ::
        (continuation first count ++ firsts) <
      UInt8.ofNat (second / 64 ^ count + offset) ::
        (continuation second count ++ seconds) := by
  apply ofNat_cons_lt small
  rcases div_or_mod_lt less (64 ^ count) with larger | ⟨same, smaller⟩
  · left
    omega
  · right
    exact ⟨by rw [same], continuation_append_lt smaller firsts seconds⟩

/-- Characters are ordered as their bytes are: a longer encoding has a larger
first byte. -/
theorem utf8EncodeChar_append_lt {first second : Char} (less : first < second)
    (firsts seconds : List UInt8) :
    String.utf8EncodeChar first ++ firsts <
      String.utf8EncodeChar second ++ seconds := by
  have codes : first.val.toNat < second.val.toNat := less
  have bounded : second.val.toNat < 0x110000 := by
    rcases second.valid with low | ⟨-, high⟩
    · exact low.trans (by decide)
    · exact high
  unfold String.utf8EncodeChar
  generalize first.val.toNat = code at *
  generalize second.val.toNat = other at *
  dsimp only
  split_ifs
  all_goals try omega
  all_goals try exact ofNat_cons_lt (by omega) (.inl (by omega))
  · have two := lead_append_lt codes 1 192 (by omega) firsts seconds
    have here : code / 64 % 32 = code / 64 := by omega
    have there : other / 64 % 32 = other / 64 := by omega
    simpa [continuation, here, there] using two
  · have three := lead_append_lt codes 2 224 (by omega) firsts seconds
    have here : code / 4096 % 16 = code / 4096 := by omega
    have there : other / 4096 % 16 = other / 4096 := by omega
    simpa [continuation, here, there] using three
  · have four := lead_append_lt codes 3 240 (by omega) firsts seconds
    have here : code / 262144 % 8 = code / 262144 := by omega
    have there : other / 262144 % 8 = other / 262144 := by omega
    simpa [continuation, here, there] using four

theorem flatMap_utf8EncodeChar_lt {first second : List Char}
    (less : first < second) :
    first.flatMap String.utf8EncodeChar <
      second.flatMap String.utf8EncodeChar := by
  induction second generalizing first with
  | nil => exact absurd less (List.not_lt_nil first)
  | cons character others induction =>
      rw [List.flatMap_cons]
      cases first with
      | nil =>
          obtain ⟨byte, more, encoded⟩ := List.exists_cons_of_ne_nil
            (String.utf8EncodeChar_ne_nil :
              String.utf8EncodeChar character ≠ [])
          rw [encoded]
          exact List.nil_lt_cons _ _
      | cons here rest =>
          rw [List.flatMap_cons]
          rcases List.cons_lt_cons_iff.mp less with smaller | ⟨rfl, later⟩
          · exact utf8EncodeChar_append_lt smaller _ _
          · exact List.append_left_lt (induction later)

theorem utf8Bytes_lt {first second : String} (less : first < second) :
    utf8Bytes first < utf8Bytes second := by
  rw [utf8Bytes_eq_flatMap, utf8Bytes_eq_flatMap]
  exact flatMap_utf8EncodeChar_lt (String.lt_iff_toList_lt.mp less)

/-- Names are ordered by their bytes as they are by their characters. -/
theorem utf8Bytes_lt_iff {first second : String} :
    utf8Bytes first < utf8Bytes second ↔ first < second := by
  constructor
  · intro less
    rcases lt_trichotomy first second with before | rfl | after
    · exact before
    · exact absurd less (List.lt_irrefl _)
    · exact absurd (List.lt_trans less (utf8Bytes_lt after)) (List.lt_irrefl _)
  · exact utf8Bytes_lt

end Text

/-- The place of a component in the order of paths. -/
def Component.orderBytes : Component → List UInt8
  | .root => [0]
  | .current => [1]
  | .parent => [2]
  | .name text => 3 :: Text.utf8Bytes text

theorem Component.orderBytes_name_lt {first second : String}
    (less : first < second) :
    (Component.name first).orderBytes < (Component.name second).orderBytes :=
  List.cons_lt_cons_iff.mpr (.inr ⟨rfl, Text.utf8Bytes_lt less⟩)

namespace Path

/-- What paths are ordered by: their components, each by its bytes. -/
def orderKey (path : Path) : List (List UInt8) :=
  path.components.map Component.orderBytes

theorem orderKey_lt_of_names {first second base : Path}
    {names others : List String} (less : names < others)
    (one : first.components = base.components ++ names.map .name)
    (other : second.components = base.components ++ others.map .name) :
    first.orderKey < second.orderKey := by
  rw [orderKey, orderKey, one, other, List.map_append, List.map_append,
    List.map_map, List.map_map]
  apply List.append_left_lt
  exact List.map_lt (fun _ _ => Component.orderBytes_name_lt) less

end Path

end WorkbookSite

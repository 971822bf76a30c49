import WorkbookSite.Markup.CharacterReference.Names

/-!
# Character references

A character reference stands for one character: by its number, in decimal or
hexadecimal, or by its name.  It starts at an ampersand and runs up to the next
semicolon.  `decode` replaces every reference of a text; what is no reference
stays as it is written, and decoded text is not read again.
-/

namespace WorkbookSite.Markup.CharacterReference

/-- The value of a digit in the given base. -/
def digit? (base : Nat) (character : Char) : Option Nat :=
  let value :=
    if character.isDigit then character.toNat - '0'.toNat
    else if 'a' ≤ character ∧ character ≤ 'f' then
      character.toNat - 'a'.toNat + 10
    else if 'A' ≤ character ∧ character ≤ 'F' then
      character.toNat - 'A'.toNat + 10
    else base
  if value < base then some value else none

/-- The value of a number that consists of digits only and has at least
one. -/
def number? (base : Nat) (digits : List Char) : Option Nat :=
  if digits.isEmpty then none
  else digits.foldlM (fun value digit =>
    (digit? base digit).map (base * value + ·)) 0

/-- The character with the given number.  Surrogates and numbers beyond Unicode
name none, and of the lowest controls only tab, line feed, form feed and
carriage return may be named. -/
def numbered? (code : Nat) : Option Char :=
  if code.isValidChar ∧
      (0x20 ≤ code ∨ code = 0x9 ∨ code = 0xA ∨ code = 0xC ∨ code = 0xD) then
    some (Char.ofNat code)
  else none

def named? (name : List Char) : Option Char :=
  match name with
  | [] => none
  | initial :: _ =>
      ((namesFrom initial).lookup (String.ofList name)).map Char.ofNat

/-- The character that the text between ampersand and semicolon stands for. -/
def character? : List Char → Option Char
  | '#' :: 'x' :: digits => (number? 16 digits).bind numbered?
  | '#' :: 'X' :: digits => (number? 16 digits).bind numbered?
  | '#' :: digits => (number? 10 digits).bind numbered?
  | name => named? name

/-- The characters up to the next semicolon; none if an ampersand or the end of
the text comes first. -/
def body? : List Char → Option (List Char)
  | [] => none
  | character :: rest =>
      if character = ';' then some []
      else if character = '&' then none
      else (body? rest).map (character :: ·)

/-- The character that a reference stands for, and the number of characters
that follow the ampersand of the reference; the ampersand stands before
`source`. -/
def reference? (source : List Char) : Option (Char × Nat) := do
  let body ← body? source
  let named ← character? body
  some (named, body.length + 1)

/-- Replaces the character references of a text whose first `taken` characters
belong to a reference that is already replaced. -/
def decodeAfter : Nat → List Char → List Char
  | _, [] => []
  | taken + 1, _ :: rest => decodeAfter taken rest
  | 0, character :: rest =>
      if character = '&' then
        match reference? rest with
        | some (named, length) => named :: decodeAfter length rest
        | none => '&' :: decodeAfter 0 rest
      else character :: decodeAfter 0 rest

/-- Replaces the character references of a text. -/
def decode (text : List Char) : List Char := decodeAfter 0 text

theorem decodeAfter_eq_decode_drop (taken : Nat) (text : List Char) :
    decodeAfter taken text = decode (text.drop taken) := by
  induction taken generalizing text with
  | zero => rfl
  | succ taken induction =>
      cases text with
      | nil => simp [decode, decodeAfter]
      | cons character rest => simp [decodeAfter, induction]

def decodeText (text : String) : String := String.ofList (decode text.toList)

end WorkbookSite.Markup.CharacterReference

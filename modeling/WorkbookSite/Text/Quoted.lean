import WorkbookSite.Text.Hidden

/-!
# Quoted text

Messages show names and values between double quotes.  Quotes, backslashes and
the common controls get a short escape, every other hidden character its code
point in lowercase hexadecimal, so that nothing in a message is invisible.
-/

namespace WorkbookSite.Text

/-- The way `character` is written inside quoted text. -/
def escaped (character : Char) : List Char :=
  if character = '"' then ['\\', '"']
  else if character = '\\' then ['\\', '\\']
  else if character = '\t' then ['\\', 't']
  else if character = '\n' then ['\\', 'n']
  else if character = '\r' then ['\\', 'r']
  else if character.toNat = 0 then ['\\', '0']
  else if isHidden character then
    ['\\', 'u', '\x7b'] ++ Nat.toDigits 16 character.toNat ++ ['\x7d']
  else [character]

/-- `text` between double quotes, with its characters escaped. -/
def quoted (text : String) : String :=
  String.ofList ('"' :: text.toList.flatMap escaped ++ ['"'])

end WorkbookSite.Text

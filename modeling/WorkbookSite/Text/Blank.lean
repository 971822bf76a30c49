/-!
# Blank characters

`isBlank` is the Unicode property White_Space.  Cells are kept without the
blanks at their ends, and the same property separates the parts of a tag.
-/

namespace WorkbookSite.Text

/-- Whether `character` has the Unicode property White_Space. -/
def isBlank (character : Char) : Bool :=
  let code := character.toNat
  (0x9 ≤ code && code ≤ 0xD) || code == 0x20 || code == 0x85 ||
    code == 0xA0 || code == 0x1680 || (0x2000 ≤ code && code ≤ 0x200A) ||
    code == 0x2028 || code == 0x2029 || code == 0x202F || code == 0x205F ||
    code == 0x3000

/-- `characters` without the blanks at its end. -/
def dropBlanksAtEnd (characters : List Char) : List Char :=
  (characters.reverse.dropWhile isBlank).reverse

/-- `text` without the blanks at both ends. -/
def trim (text : String) : String :=
  String.ofList (dropBlanksAtEnd (text.toList.dropWhile isBlank))

end WorkbookSite.Text

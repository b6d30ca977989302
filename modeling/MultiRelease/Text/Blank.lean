import MultiRelease.Text.CodePoints

/-!
# Blanks

The characters that separate words: those with the Unicode property `White_Space`.  `trim` removes
them from both ends of a text.
-/

set_option autoImplicit false

namespace MultiRelease.Text

/-- The code points with the property `White_Space`. -/
def blankRanges : CodePoints :=
  [(0x9, 0xD), (0x20, 0x20), (0x85, 0x85), (0xA0, 0xA0), (0x1680, 0x1680), (0x2000, 0x200A),
   (0x2028, 0x2029), (0x202F, 0x202F), (0x205F, 0x205F), (0x3000, 0x3000)]

/-- Whether a character is blank. -/
def isBlank (c : Char) : Bool := blankRanges.has c

/-- A character list without its leading and trailing blanks. -/
def trimBlanks (cs : List Char) : List Char :=
  ((cs.dropWhile isBlank).reverse.dropWhile isBlank).reverse

/-- A text without its leading and trailing blanks. -/
def trim (text : String) : String := String.ofList (trimBlanks text.toList)

end MultiRelease.Text

import EnumCases.Text.Ranges

/-!
# Blank characters

A blank character separates tokens: one of the property White_Space, or one of the two marks that
set the direction of text.
-/

namespace EnumCases.Text

/-- The characters of White_Space, and the marks for left-to-right and right-to-left text. -/
def blankRanges : Ranges :=
  [(0x9, 0xD), (0x20, 0x20), (0x85, 0x85), (0xA0, 0xA0), (0x1680, 0x1680), (0x2000, 0x200A),
   (0x200E, 0x200F), (0x2028, 0x2029), (0x202F, 0x202F), (0x205F, 0x205F), (0x3000, 0x3000)]

/-- A character between tokens. -/
def isBlank (c : Char) : Bool := blankRanges.contains c

end EnumCases.Text

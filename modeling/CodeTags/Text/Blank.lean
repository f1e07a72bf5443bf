import CodeTags.Text.Ranges

/-!
# Blanks

The characters with the Unicode property White_Space. They separate the words of a line, and they
never belong to a symbol.
-/

namespace CodeTags

/-- The code ranges of White_Space, in every version of Unicode since 6.3. -/
def blankRanges : CodeRanges :=
  [(0x9, 0xD), (0x20, 0x20), (0x85, 0x85), (0xA0, 0xA0), (0x1680, 0x1680), (0x2000, 0x200A),
   (0x2028, 0x2029), (0x202F, 0x202F), (0x205F, 0x205F), (0x3000, 0x3000)]

/-- The character has the property White_Space. -/
def isBlank (c : Char) : Bool := blankRanges.has c

theorem isBlank_newline : isBlank '\n' = true := by decide

theorem isBlank_return : isBlank '\r' = true := by decide

end CodeTags

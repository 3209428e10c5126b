import SqlFront.Text.CodeRange

/-!
# Blank characters

The characters that separate tokens: the characters of the Unicode character database (version
14.0) with bidirectional class `WS`, `B` or `S`, or with general category `Zs`. Besides the six
ASCII blanks this takes in the ASCII separators `U+001C` to `U+001F`, the next-line character,
the no-break space, the line and paragraph separators and the typographic spaces; it leaves out
the zero-width space and the byte order mark.
-/

namespace SqlFront.Text

/-- The blank characters, as 10 intervals of code points. -/
def blankRanges : RangeSet := [
  (0x9, 0xD), (0x1C, 0x20), (0x85, 0x85), (0xA0, 0xA0), (0x1680, 0x1680), (0x2000, 0x200A),
  (0x2028, 0x2029), (0x202F, 0x202F), (0x205F, 0x205F), (0x3000, 0x3000)]

/-- Whether `c` separates tokens. -/
def isBlank (c : Char) : Bool := blankRanges.contains c.toNat

example : isBlank ' ' ∧ isBlank '\x1c' ∧ isBlank '\u3000' ∧ ¬ isBlank '\u200b' ∧ ¬ isBlank 'a' := by
  decide +kernel

end SqlFront.Text

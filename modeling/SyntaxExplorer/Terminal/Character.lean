import SyntaxExplorer.Terminal.Ranges

namespace SyntaxExplorer.Terminal

/-- The control characters, and the invisible format characters that stand for themselves. Nothing
joins them. -/
def isControl : Char → Bool :=
  inRanges [(0x0000, 0x001F), (0x007F, 0x009F), (0x00AD, 0x00AD), (0x061C, 0x061C),
    (0x180E, 0x180E), (0x200B, 0x200B), (0x200E, 0x200F), (0x2028, 0x202E), (0x2060, 0x206F),
    (0xFEFF, 0xFEFF), (0xFFF0, 0xFFFB), (0x13430, 0x1343F), (0x1BCA0, 0x1BCA3),
    (0x1D173, 0x1D17A), (0xE0000, 0xE001F), (0xE0080, 0xE00FF), (0xE01F0, 0xE0FFF)]

/-- The characters that are not shown where they mean nothing, and take no cell. The filler for a
first letter of hangul is not among them, since it holds the place of the syllable. -/
def isIgnorable : Char → Bool :=
  inRanges [(0x00AD, 0x00AD), (0x034F, 0x034F), (0x061C, 0x061C), (0x1160, 0x1160),
    (0x17B4, 0x17B5), (0x180B, 0x180F), (0x200B, 0x200F), (0x202A, 0x202E), (0x2060, 0x206F),
    (0x3164, 0x3164), (0xFE00, 0xFE0F), (0xFEFF, 0xFEFF), (0xFFA0, 0xFFA0), (0xFFF0, 0xFFF8),
    (0x1BCA0, 0x1BCA3), (0x1D173, 0x1D17A), (0xE0000, 0xE0FFF)]

/-- The characters at which a line may be broken: white space, but not the space that forbids it,
and the zero-width space that allows it. -/
def isBreakable : Char → Bool :=
  inRanges [(0x0009, 0x000D), (0x0020, 0x0020), (0x0085, 0x0085), (0x1680, 0x1680),
    (0x2000, 0x200B), (0x2028, 0x2029), (0x202F, 0x202F), (0x205F, 0x205F), (0x3000, 0x3000)]

namespace Hangul

/-- The consonants that begin a syllable. -/
def isLeading : Char → Bool :=
  inRanges [(0x1100, 0x115F), (0xA960, 0xA97C)]

/-- The vowels. -/
def isVowel : Char → Bool :=
  inRanges [(0x1160, 0x11A7), (0xD7B0, 0xD7C6)]

/-- The consonants that end a syllable. -/
def isTrailing : Char → Bool :=
  inRanges [(0x11A8, 0x11FF), (0xD7CB, 0xD7FB)]

/-- The syllables that are one character. -/
def isSyllable : Char → Bool :=
  inRanges [(0xAC00, 0xD7A3)]

/-- Whether a character ends with a vowel. The syllables of one character stand in rows of
twenty-eight, of which the first has no last consonant. -/
def endsOpen (c : Char) : Bool :=
  isVowel c || isSyllable c && (c.toNat - 0xAC00) % 28 = 0

/-- Whether a character ends with a consonant that closes a syllable. -/
def endsClosed (c : Char) : Bool :=
  isTrailing c || isSyllable c && (c.toNat - 0xAC00) % 28 ≠ 0

/-- Whether two characters belong to one syllable. -/
def joins (before after : Char) : Bool :=
  isLeading before && (isLeading after || isVowel after || isSyllable after) ||
  endsOpen before && (isVowel after || isTrailing after) ||
  endsClosed before && isTrailing after

end Hangul

/-- Whether a character shares the place of the one before it: a line feed that of a carriage
return, marks that of any character that is no control character, and the letters of a syllable
that of its first one. -/
def joins (before after : Char) : Bool :=
  if before = '\r' then after = '\n'
  else !isControl before && (isMark after || Hangul.joins before after)

/-- The number of cells that a character takes. Control characters are shown as one cell; vowels and
last consonants of hangul have their place in the cells of the first one. -/
def charWidth (c : Char) : Nat :=
  if c.toNat ≤ 0x00A0 then 1
  else if isIgnorable c || isMark c || Hangul.isVowel c || Hangul.isTrailing c then 0
  else if isWide c then 2
  else 1

end SyntaxExplorer.Terminal

import ModuleHints.Unicode.Ranges

/-!
# Hidden delimiters

Some characters are compatible with texts in which a character stands that parts one piece of a URI from
the next: a slash, a question mark, a number sign, an at sign or a colon.
-/

namespace ModuleHints.Unicode

/-- Ranges of code points beyond ASCII whose compatible texts hold a delimiter, ascending. -/
def hiddenDelimiterRanges : List (Nat × Nat) :=
  [(0x2047, 0x2049), (0x2100, 0x2101), (0x2105, 0x2106), (0x2A74, 0x2A74), (0xFE13, 0xFE13),
   (0xFE16, 0xFE16), (0xFE55, 0xFE56), (0xFE5F, 0xFE5F), (0xFE6B, 0xFE6B), (0xFF03, 0xFF03),
   (0xFF0F, 0xFF0F), (0xFF1A, 0xFF1A), (0xFF1F, 0xFF20)]

/-- Whether a character hides a delimiter. -/
def hidesDelimiter (c : Char) : Bool := inRanges hiddenDelimiterRanges c.toNat

end ModuleHints.Unicode

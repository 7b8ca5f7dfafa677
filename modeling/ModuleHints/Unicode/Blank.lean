import ModuleHints.Unicode.Ranges

/-!
# Blank characters

The characters that separate words: the bidirectional classes of white space, segment and paragraph
separators, and every space separator.
-/

namespace ModuleHints.Unicode

/-- Ranges of blank code points, ascending. -/
def blankRanges : List (Nat × Nat) :=
  [(0x9, 0xD), (0x1C, 0x20), (0x85, 0x85), (0xA0, 0xA0), (0x1680, 0x1680), (0x2000, 0x200A),
   (0x2028, 0x2029), (0x202F, 0x202F), (0x205F, 0x205F), (0x3000, 0x3000)]

/-- Whether a character only separates other text. -/
def isBlank (c : Char) : Bool := inRanges blankRanges c.toNat

end ModuleHints.Unicode

/-!
# Line breaks

Two readings of line breaks besides the plain one at line feeds. A text file may end its lines in
three ways, which reading it makes the same. A line that is shown to a reader ends wherever the reader
would see a break, and a break at the very end of the text begins no further line.
-/

namespace ModuleHints.Text

/-- The text with every carriage return, alone or before a line feed, made a line feed. -/
def unifyBreaks : List Char → List Char
  | [] => []
  | '\r' :: '\n' :: rest => '\n' :: unifyBreaks rest
  | c :: rest => (if c = '\r' then '\n' else c) :: unifyBreaks rest

/-- Code points that a reader sees as a line break. -/
def visibleBreaks : List Nat := [0x0A, 0x0B, 0x0C, 0x0D, 0x1C, 0x1D, 0x1E, 0x85, 0x2028, 0x2029]

/-- Whether a reader sees the character as a line break. -/
def isVisibleBreak (c : Char) : Bool := visibleBreaks.contains c.toNat

/-- The lines that a reader sees. -/
def visibleLines : List Char → List (List Char)
  | [] => []
  | '\r' :: '\n' :: rest => [] :: visibleLines rest
  | c :: rest =>
    if isVisibleBreak c then [] :: visibleLines rest
    else
      match visibleLines rest with
      | [] => [[c]]
      | line :: lines => (c :: line) :: lines

end ModuleHints.Text

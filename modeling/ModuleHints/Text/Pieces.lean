/-!
# Splitting a text at a separator

A text with `n` separators has `n + 1` pieces, some of which may be empty.
-/

namespace ModuleHints.Text

/-- The pieces of a text between the separators. -/
def pieces (separator : Char) : List Char → List (List Char)
  | [] => [[]]
  | c :: rest =>
    if c = separator then [] :: pieces separator rest
    else (pieces separator rest).modifyHead (c :: ·)

/-- There is always a first piece. -/
theorem pieces_ne_nil (separator : Char) (cs : List Char) : pieces separator cs ≠ [] := by
  cases cs with
  | nil => simp [pieces]
  | cons c rest =>
    have h := pieces_ne_nil separator rest
    simp only [pieces]
    split
    · simp
    · cases hp : pieces separator rest with
      | nil => exact absurd hp h
      | cons p ps => simp

/-- There is one piece more than there are separators. -/
theorem length_pieces (separator : Char) (cs : List Char) :
    (pieces separator cs).length = cs.count separator + 1 := by
  induction cs with
  | nil => rfl
  | cons c rest ih =>
    by_cases h : c = separator <;> simp [pieces, h, ih]

end ModuleHints.Text

import Mathlib
import ModuleHints.Server.Position
import ModuleHints.Proofs.Source.Walk

/-!
# Positions and offsets

A client's position counts code units, an offset counts characters. The beginnings of a line grow by at
least one unit with each character, so the units before a place tell how many characters there are, and
a position inside the units of a character means the least beginning that takes it in. Behind the end
of a line there is no position: the place inside a line break has a name all the same, but the name
leads nowhere.
-/

namespace ModuleHints.Server

namespace Encoding

variable (e : Encoding)

/-- A longer beginning of a text takes up more code units. -/
theorem units_take_lt {text : List Char} {m n : Nat} (hmn : m < n) (hn : n ≤ text.length) :
    e.units (text.take m) < e.units (text.take n) := by
  induction text generalizing m n with
  | nil =>
    rw [List.length_nil] at hn
    omega
  | cons c rest ih =>
    obtain ⟨n, rfl⟩ : ∃ k, n = k + 1 := ⟨n - 1, by omega⟩
    rw [List.take_succ_cons, units]
    cases m with
    | zero =>
      have hpos := e.unitsOf_pos c
      rw [List.take_zero, units]
      omega
    | succ m =>
      have hlt := ih (Nat.lt_of_succ_lt_succ hmn) (Nat.le_of_succ_le_succ hn)
      rw [List.take_succ_cons, units]
      omega

theorem characters?_zero (text : List Char) : e.characters? 0 text = some 0 := by
  cases text <;> rfl

/-- The characters that take up a number of units are those of the shortest beginning that does. -/
theorem characters?_eq_some_iff {wanted n : Nat} {text : List Char} :
    e.characters? wanted text = some n ↔
      n ≤ text.length ∧ wanted ≤ e.units (text.take n) ∧
        ∀ m < n, e.units (text.take m) < wanted := by
  induction text generalizing wanted n with
  | nil =>
    cases wanted with
    | zero =>
      rw [characters?_zero, Option.some.injEq, List.length_nil, Nat.le_zero, eq_comm]
      simp +contextual
    | succ wanted => simp [characters?, units]
  | cons c rest ih =>
    cases wanted with
    | zero =>
      rw [characters?_zero, Option.some.injEq]
      constructor
      · rintro rfl
        simp
      · rintro ⟨-, -, hleast⟩
        by_contra hn
        exact Nat.not_lt_zero _ (hleast 0 (Nat.pos_of_ne_zero (Ne.symm hn)))
    | succ wanted =>
      rw [characters?, Option.map_eq_some_iff]
      constructor
      · rintro ⟨k, hk, rfl⟩
        obtain ⟨hle, hreach, hleast⟩ := ih.mp hk
        refine ⟨Nat.succ_le_succ hle, ?_, ?_⟩
        · rw [List.take_succ_cons, units]
          omega
        · intro m hm
          cases m with
          | zero => exact Nat.succ_pos wanted
          | succ m =>
            have hlt := hleast m (Nat.lt_of_succ_lt_succ hm)
            rw [List.take_succ_cons, units]
            omega
      · rintro ⟨hle, hreach, hleast⟩
        cases n with
        | zero => cases hreach
        | succ n =>
          rw [List.take_succ_cons, units] at hreach
          refine ⟨n, ih.mpr ⟨Nat.le_of_succ_le_succ hle, by omega, ?_⟩, rfl⟩
          intro m hm
          have hlt := hleast (m + 1) (Nat.succ_lt_succ hm)
          rw [List.take_succ_cons, units] at hlt
          omega

/-- No characters of a text take up more units than it has. -/
theorem characters?_eq_none_iff {wanted : Nat} {text : List Char} :
    e.characters? wanted text = none ↔ e.units text < wanted := by
  induction text generalizing wanted with
  | nil => cases wanted <;> simp [characters?, units]
  | cons c rest ih =>
    cases wanted with
    | zero => simp [characters?]
    | succ wanted =>
      rw [characters?, Option.map_eq_none_iff, ih, units]
      omega

/-- The units of a beginning of a text tell how many characters it has. -/
theorem characters?_units_take {text : List Char} {n : Nat} (hn : n ≤ text.length) :
    e.characters? (e.units (text.take n)) text = some n :=
  e.characters?_eq_some_iff.mpr ⟨hn, le_rfl, fun _ hm => e.units_take_lt hm hn⟩

/-- Whether a number of code units is that of a beginning of a text, so that no character is parted
behind it. -/
def IsBoundary (text : List Char) (n : Nat) : Prop := ∃ head, head <+: text ∧ e.units head = n

/-- The units of the characters that take up a number of units are the least boundary that reaches
it. -/
theorem isLeast_of_characters? {wanted n : Nat} {text : List Char}
    (h : e.characters? wanted text = some n) :
    IsLeast {m | e.IsBoundary text m ∧ wanted ≤ m} (e.units (text.take n)) := by
  obtain ⟨hle, hreach, hleast⟩ := e.characters?_eq_some_iff.mp h
  refine ⟨⟨⟨_, List.take_prefix .., rfl⟩, hreach⟩, ?_⟩
  rintro m ⟨⟨head, hhead, rfl⟩, hm⟩
  rw [List.prefix_iff_eq_take.mp hhead] at hm ⊢
  rcases Nat.lt_trichotomy head.length n with hlt | heq | hgt
  · have hless := hleast _ hlt
    omega
  · rw [heq]
  · exact (e.units_take_lt hgt hhead.length_le).le

end Encoding

open Document

variable {d : Document} {e : Encoding} {place : Nat}

section LinesAround

variable {earlier later : List (List Char)} {before after : List Char}

/-- A place is named by its line and by the code units before it on the line. -/
theorem positionAt_eq (h : d.LinesAround place earlier before after later) :
    positionAt d e place = ⟨earlier.length, e.units before⟩ := by
  have hplace := h.place_eq
  have hslice : d.slice (lengthOfLines earlier : Nat) (lengthOfLines earlier + before.length : Nat) =
      before := by
    have hline := h.slice_eq (n := before.length) (by rw [List.length_append]; omega)
    rw [List.take_left] at hline
    rw [slice, ← hplace, clamp_of_le h.le, clamp_of_le (by have := h.le; omega), hplace, hline]
  rw [positionAt, h.positionAt_eq]
  dsimp only
  rw [h.lineStart_eq, ← Nat.cast_add, hslice]

/-- The name of a place leads back to it, unless the place parts its line break. -/
theorem offsetAt?_positionAt (h : d.LinesAround place earlier before after later) :
    offsetAt? d e (positionAt d e place) = if d.InLineBreak place then none else some place := by
  have hexists : earlier.length < d.lineCount := by
    rw [← h.lineNumber_eq]
    exact d.lineNumber_lt place
  rw [positionAt_eq h, offsetAt?, if_pos hexists, h.lineStart_eq]
  split
  next hbreak =>
    have hbefore := h.inLineBreak_iff.mp hbreak
    rw [Option.map_eq_none_iff, e.characters?_eq_none_iff, hbefore, e.units_append]
    exact Nat.lt_add_of_pos_right (e.unitsOf_pos '\r')
  next hbreak =>
    obtain ⟨rest, htext⟩ := h.lineText_cases.resolve_right fun hbefore =>
      hbreak (h.inLineBreak_iff.mpr hbefore)
    have hlength : before.length ≤ (before ++ rest).length := by
      rw [List.length_append]
      omega
    have hcount := e.characters?_units_take hlength
    rw [List.take_left] at hcount
    rw [htext, hcount, Option.map_some, ← h.place_eq]

end LinesAround

/-- A position leads nowhere exactly where there is no such line, or not as many units on it. -/
theorem offsetAt?_eq_none_iff {p : Position} :
    offsetAt? d e p = none ↔ d.lineCount ≤ p.line ∨ e.units (d.lineText p.line) < p.character := by
  rw [offsetAt?]
  split
  next hexists =>
    rw [Option.map_eq_none_iff, e.characters?_eq_none_iff]
    exact (or_iff_right (Nat.not_le.mpr hexists)).symm
  next hmissing => exact iff_of_true rfl (.inl (Nat.le_of_not_lt hmissing))

/-- The offset to which a position leads is on the line, and its own name is the least one that
reaches the position. -/
theorem positionAt_of_offsetAt? {p : Position} (h : offsetAt? d e p = some place) :
    d.lineStart p.line ≤ place ∧ place ≤ d.lineStop p.line ∧
      (positionAt d e place).line = p.line ∧
      IsLeast {n | e.IsBoundary (d.lineText p.line) n ∧ p.character ≤ n}
        (positionAt d e place).character := by
  obtain ⟨hexists, hcount⟩ := Option.ite_none_right_eq_some.mp h
  obtain ⟨n, hn, rfl⟩ := Option.map_eq_some_iff.mp hcount
  have hle := (e.characters?_eq_some_iff.mp hn).1
  obtain ⟨earlier, rest, later, hplace, hline⟩ := exists_linesAround_lineText hexists hle
  rw [positionAt_eq hplace, lineStop]
  exact ⟨Nat.le_add_right .., Nat.add_le_add_left hle _, hline, e.isLeast_of_characters? hn⟩

/-- How the positions of a client and the offsets of a document answer to each other. -/
structure PositionsAgree (d : Document) (e : Encoding) : Prop where
  /-- The position of a place leads back to it. -/
  offset_of_position : ∀ place ≤ d.length, ¬d.InLineBreak place →
    offsetAt? d e (positionAt d e place) = some place
  /-- The position of a place between a carriage return and its line feed leads nowhere. -/
  none_of_inLineBreak : ∀ place ≤ d.length, d.InLineBreak place →
    offsetAt? d e (positionAt d e place) = none
  /-- A position leads nowhere exactly where there is no such line, or not as many units on it. -/
  none_iff : ∀ p : Position, offsetAt? d e p = none ↔
    d.lineCount ≤ p.line ∨ e.units (d.lineText p.line) < p.character
  /-- Any other position leads to a place of its line. -/
  on_line : ∀ (p : Position) (place : Nat), offsetAt? d e p = some place →
    d.lineStart p.line ≤ place ∧ place ≤ d.lineStop p.line ∧ (positionAt d e place).line = p.line
  /-- The position of that place has the least boundary of the line that is not less. -/
  isLeast : ∀ (p : Position) (place : Nat), offsetAt? d e p = some place →
    IsLeast {n | e.IsBoundary (d.lineText p.line) n ∧ p.character ≤ n}
      (positionAt d e place).character

/-- The positions of a client and the offsets of a document answer to each other, however the client
counts. -/
theorem positions_agree (d : Document) (e : Encoding) : PositionsAgree d e where
  offset_of_position place h hbreak := by
    obtain ⟨earlier, before, after, later, hlines⟩ := exists_linesAround h
    rw [offsetAt?_positionAt hlines, if_neg hbreak]
  none_of_inLineBreak place h hbreak := by
    obtain ⟨earlier, before, after, later, hlines⟩ := exists_linesAround h
    rw [offsetAt?_positionAt hlines, if_pos hbreak]
  none_iff _ := offsetAt?_eq_none_iff
  on_line p place h := by
    obtain ⟨hstart, hstop, hline, -⟩ := positionAt_of_offsetAt? h
    exact ⟨hstart, hstop, hline⟩
  isLeast p place h := (positionAt_of_offsetAt? h).2.2.2

/-- A position between the two units of a character means the place behind it. -/
example :
    let d := Document.ofString "a\r\n😀b\r\n"
    offsetAt? d .utf16 ⟨1, 1⟩ = some 4 ∧ positionAt d .utf16 4 = ⟨1, 2⟩ ∧ d.InLineBreak 6 ∧
      positionAt d .utf16 6 = ⟨1, 4⟩ ∧ offsetAt? d .utf16 ⟨1, 4⟩ = none := by
  cbv

end ModuleHints.Server

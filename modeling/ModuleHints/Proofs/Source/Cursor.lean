import ModuleHints.Source.Cursor
import ModuleHints.Proofs.Source.Walk

/-!
# Names of a place

A place of a document has a line and a character, and these lead back to it. Only the place between a
carriage return and its line feed has a name that leads nowhere, since a line ends before its line
break. So a cursor may be named by its offset, or by its line and column, and what is refused is in
both cases what names no place.
-/

namespace ModuleHints

namespace Document

/-- Whether a place is the one with the given line and character, counted from zero. -/
def HasPosition (d : Document) (place : Nat) (line character : Int) : Prop :=
  ((d.positionAt place).1 : Int) = line ∧ ((d.positionAt place).2 : Int) = character

variable {d : Document} {place : Nat} {line character column : Int}

theorem hasPosition_positionAt (d : Document) (place : Nat) :
    d.HasPosition place (d.positionAt place).1 (d.positionAt place).2 := ⟨rfl, rfl⟩

/-- The line and character of a place say where it is. -/
theorem lineStart_add_positionAt (h : place ≤ d.length) :
    d.lineStart (d.positionAt place).1 + (d.positionAt place).2 = place := by
  obtain ⟨earlier, before, after, later, hlines⟩ := exists_linesAround h
  rw [hlines.positionAt_eq]
  exact hlines.lineStart_eq ▸ hlines.place_eq.symm

/-- No two places have the same line and character. -/
theorem HasPosition.eq {other : Nat} (h : d.HasPosition place line character)
    (hother : d.HasPosition other line character) (hplace : place ≤ d.length)
    (hinside : other ≤ d.length) : place = other := by
  obtain ⟨hline, hcharacter⟩ := h
  obtain ⟨hline', hcharacter'⟩ := hother
  rw [← lineStart_add_positionAt hplace, ← lineStart_add_positionAt hinside,
    Int.ofNat_inj.mp (hline.trans hline'.symm), Int.ofNat_inj.mp (hcharacter.trans hcharacter'.symm)]

/-- A line and character lead to the place that has them, unless that parts its line break. -/
theorem offsetAt?_eq_some_iff :
    d.offsetAt? line character = some place ↔
      place ≤ d.length ∧ d.HasPosition place line character ∧ ¬d.InLineBreak place := by
  rw [offsetAt?, Option.ite_none_right_eq_some, Option.some.injEq]
  constructor
  · rintro ⟨⟨hline, hexists, hcharacter, hinside⟩, hplace⟩
    obtain ⟨line, rfl⟩ := Int.eq_ofNat_of_zero_le hline
    obtain ⟨n, rfl⟩ := Int.eq_ofNat_of_zero_le hcharacter
    rw [Int.toNat_natCast, Int.ofNat_le] at hinside
    rw [Int.toNat_natCast, Int.toNat_natCast] at hplace
    obtain ⟨earlier, rest, later, hhere, rfl⟩ :=
      exists_linesAround_lineText (Int.ofNat_lt.mp hexists) hinside
    rw [hplace] at hhere
    have hlength := List.length_take_of_le hinside
    refine ⟨hhere.le, ?_, fun hbreak => ?_⟩
    · rw [HasPosition, hhere.positionAt_eq, hlength]
      exact ⟨rfl, rfl⟩
    · have hbefore := congrArg List.length (hhere.inLineBreak_iff.mp hbreak)
      rw [hlength, List.length_append, List.length_singleton] at hbefore
      omega
  · rintro ⟨hplace, ⟨rfl, rfl⟩, hbreak⟩
    obtain ⟨earlier, before, after, later, hlines⟩ := exists_linesAround hplace
    have hexists := d.lineNumber_lt place
    have hstop := hlines.le_lineStop hbreak
    have hstart := hlines.place_eq
    rw [lineStop, hlines.lineStart_eq] at hstop
    rw [hlines.lineNumber_eq] at hexists
    rw [hlines.positionAt_eq]
    dsimp only
    rw [Int.toNat_natCast, Int.toNat_natCast, hlines.lineStart_eq]
    exact ⟨⟨by omega, by omega, by omega, by omega⟩, hstart.symm⟩

/-- A line and character lead nowhere where no place has them, or the one that has them parts its
line break. -/
theorem offsetAt?_eq_none_iff :
    d.offsetAt? line character = none ↔
      ¬∃ place ≤ d.length, d.HasPosition place line character ∧ ¬d.InLineBreak place := by
  rw [Option.eq_none_iff_forall_ne_some]
  constructor
  · rintro hnone ⟨place, hplace⟩
    exact hnone place (offsetAt?_eq_some_iff.mpr hplace)
  · intro hnone place hsome
    exact hnone ⟨place, offsetAt?_eq_some_iff.mp hsome⟩

/-- A cursor is accepted by its line and column where there is an offset for them. -/
theorem resolve_lineColumn_eq_ok_iff :
    d.resolve { line := some line, column := some column } = .ok place ↔
      d.offsetAt? (line - 1) (column - 1) = some place := by
  change d.atLineColumn line column = .ok place ↔ _
  rw [atLineColumn]
  cases d.offsetAt? (line - 1) (column - 1) <;> simp

/-- A cursor is accepted by its offset where that lies in the document. -/
theorem resolve_offset (d : Document) (offset : Int) (line column : Option Int) :
    d.resolve ⟨some offset, line, column⟩ =
      if 0 ≤ offset ∧ offset ≤ d.length then .ok offset.toNat
      else .error
        ⟨.outside offset, (d.positionAt offset).1 + 1, (d.positionAt offset).2 + 1⟩ := by
  cases line <;> cases column <;> rfl

/-- How the places of a document and their names answer to each other. -/
structure NamesAgree (d : Document) : Prop where
  /-- The place that a line and character lead to has them. -/
  position_of_offset : ∀ (line character : Int) (place : Nat),
    d.offsetAt? line character = some place → d.HasPosition place line character
  /-- The line and character of a place lead back to it, but those of a place between a carriage
  return and its line feed lead nowhere. -/
  offset_of_position : ∀ place ≤ d.length,
    d.offsetAt? (d.positionAt place).1 (d.positionAt place).2 =
      if d.InLineBreak place then none else some place
  /-- A line and column name the place that has them, if that is not between a carriage return and
  its line feed. -/
  ok_lineColumn : ∀ (line column : Int) (place : Nat),
    d.resolve { line := some line, column := some column } = .ok place ↔
      place ≤ d.length ∧ d.HasPosition place (line - 1) (column - 1) ∧ ¬d.InLineBreak place
  /-- A line and column of no such place are refused. -/
  error_lineColumn : ∀ line column : Int,
    (¬∃ place ≤ d.length, d.HasPosition place (line - 1) (column - 1) ∧ ¬d.InLineBreak place) →
      d.resolve { line := some line, column := some column } =
        .error ⟨.noPosition line column, line, column⟩
  /-- An offset names itself, if it lies in the document. -/
  ok_offset : ∀ (offset : Int) (line column : Option Int) (place : Nat),
    d.resolve ⟨some offset, line, column⟩ = .ok place ↔ (place : Int) = offset ∧ place ≤ d.length
  /-- Any other offset is refused. -/
  error_offset : ∀ (offset : Int) (line column : Option Int), ¬(0 ≤ offset ∧ offset ≤ d.length) →
    d.resolve ⟨some offset, line, column⟩ =
      .error ⟨.outside offset, (d.positionAt offset).1 + 1, (d.positionAt offset).2 + 1⟩

/-- Offsets name the places of a document, and so do a line and column except between the two
characters of a line break; any other name is refused. -/
theorem names_agree (d : Document) : NamesAgree d where
  position_of_offset _ _ _ h := (offsetAt?_eq_some_iff.mp h).2.1
  offset_of_position place h := by
    have hposition := d.hasPosition_positionAt place
    split
    next hbreak =>
      rw [offsetAt?_eq_none_iff]
      rintro ⟨other, hother, hsame, hvisible⟩
      rw [hposition.eq hsame h hother] at hbreak
      exact hvisible hbreak
    next hbreak => exact offsetAt?_eq_some_iff.mpr ⟨h, hposition, hbreak⟩
  ok_lineColumn _ _ _ := resolve_lineColumn_eq_ok_iff.trans offsetAt?_eq_some_iff
  error_lineColumn line column hnone := by
    change d.atLineColumn line column = _
    rw [atLineColumn, offsetAt?_eq_none_iff.mpr hnone]
  ok_offset offset line column place := by
    rw [resolve_offset]
    split
    next hinside =>
      rw [Except.ok.injEq]
      omega
    next houtside =>
      refine iff_of_false (by simp) ?_
      omega
  error_offset offset line column houtside := by
    rw [resolve_offset, if_neg houtside]

/-- A line break of two characters, and the end of the last line: the place between the two has a name
that leads nowhere. -/
example :
    let d := ofString "ab\r\ncd"
    [1, 2, 3, 4, 6].map (fun place : Nat => d.positionAt place) =
        [(0, 1), (0, 2), (0, 3), (1, 0), (1, 2)] ∧
      [(0, 2), (0, 3), (1, 0), (1, 2), (1, 3)].map (fun p : Int × Int => d.offsetAt? p.1 p.2) =
        [some 2, none, some 4, some 6, none] := by
  cbv

end Document

end ModuleHints

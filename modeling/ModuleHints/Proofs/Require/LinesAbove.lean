import Mathlib
import ModuleHints.Proofs.Source.Scan
import ModuleHints.Proofs.Require.Call

/-!
# Lines above a document

Lines written above a document move it down and do nothing else to a scan: it sees the tokens that it
saw, moved as far, and behind them those of the new lines. A call that was open stays open, whatever
the lines above leave unfinished. Where the word of the call stood first in the document, a token may
now stand before it, but never on the line of the cursor.
-/

namespace ModuleHints

namespace Document

/-- The document with another one and a line feed above it. -/
def below (d above : Document) : Document := ⟨above.chars ++ '\n' :: d.chars⟩

variable {d above : Document} {place : Nat}

theorem take_below (d above : Document) (n : Nat) :
    (d.below above).chars.take (above.length + 1 + n) = above.chars ++ '\n' :: d.chars.take n := by
  rw [below, length, Nat.add_assoc, List.take_length_add_append, Nat.add_comm 1, List.take_succ_cons]

theorem drop_below (d above : Document) (n : Nat) :
    (d.below above).chars.drop (above.length + 1 + n) = d.chars.drop n := by
  rw [below, length, Nat.add_assoc, List.drop_length_add_append, Nat.add_comm 1, List.drop_succ_cons]

/-- The line feed between two documents adds one to their lengths. -/
theorem length_below (d above : Document) :
    (d.below above).length = above.length + 1 + d.length := by
  rw [length, below, List.length_append, List.length_cons, length, length]
  omega

/-- The lines around a place are the same below other lines, which come first. -/
theorem LinesAround.below {earlier later : List (List Char)} {before after : List Char}
    (h : d.LinesAround place earlier before after later) (above : Document) :
    (d.below above).LinesAround (above.length + 1 + place) (above.lines ++ earlier) before after
      later where
  le := by
    rw [length_below]
    exact Nat.add_le_add_left h.le _
  before_eq := by
    rw [take_below, splitLines_append_feed, h.before_eq, ← lines, List.append_assoc]
  after_eq := by
    rw [drop_below, h.after_eq]

/-- The line of a place comes below the lines above. -/
theorem lineNumber_below (d above : Document) (n : Nat) :
    (d.below above).lineNumber (above.length + 1 + n : Nat) = above.lineCount + d.lineNumber n := by
  rw [lineNumber_natCast, take_below, List.count_append, List.count_cons_self, lineNumber_natCast,
    lineCount_eq]
  omega

theorem lineNumber_below_lt (d : Document) (h : place ≤ above.length) :
    (d.below above).lineNumber place < above.lineCount := by
  rw [lineNumber_natCast, below, List.take_append_of_le_length h, lineCount_eq]
  exact Nat.lt_succ_of_le ((List.take_sublist ..).count_le _)

/-- The tokens of a document are those of its lines with their line breaks, if the last one does not
end with a return that a line feed would make a part of its line break. -/
theorem scanBackward_length (h : above.chars.getLast? ≠ some '\r') :
    above.scanBackward above.length = (endedTokens 0 above.lines).reverse := by
  obtain ⟨earlier, last, hlast⟩ : ∃ earlier last, above.lines = earlier ++ [last] :=
    exists_splitLines_concat above.chars
  obtain ⟨head, hhead, -⟩ := exists_append_of_splitLines hlast
  have hreturn : last.getLast? ≠ some '\r' := by
    intro hlast
    rw [hhead, List.getLast?_append, hlast] at h
    exact h rfl
  have hwhole : withoutReturn last = last := by
    rw [withoutReturn, if_neg hreturn]
  rw [scanBackward, before, clamp_of_le le_rfl, length, List.take_length, scanText, ← lines, hlast,
    lineTokens_append_singleton, endedTokens_append, endedTokens, endedTokens, List.append_nil,
    hwhole]

/-- A scan goes on with the lines above. -/
theorem scanBackward_below (habove : above.chars.getLast? ≠ some '\r') (h : place ≤ d.length) :
    (d.below above).scanBackward (above.length + 1 + place : Nat) =
      (d.scanBackward place).map (·.shift (above.length + 1)) ++
        above.scanBackward above.length := by
  obtain ⟨earlier, before, after, later, hlines⟩ := exists_linesAround h
  have hbefore := Lexer.tokensFrom_shift (above.length + 1) none (lengthOfLines earlier) before
  have hearlier := endedTokens_shift (above.length + 1) 0 earlier
  have hlength : lengthOfLines above.lines = above.length + 1 := lengthOfLines_splitLines above.chars
  have hplace : lengthOfLines (above.lines ++ earlier) =
      lengthOfLines earlier + (above.length + 1) := by
    rw [lengthOfLines_append, hlength, Nat.add_comm]
  rw [Option.map_none] at hbefore
  rw [(hlines.below above).scanBackward_eq, hplace, hbefore, endedTokens_append, hlength, hearlier,
    scanBackward_length habove, hlines.scanBackward_eq, List.reverse_append, List.map_append,
    List.map_reverse, List.map_reverse, List.append_assoc]

/-- A token of the document stands in the way of a call as it did. -/
theorem mayFollow_below (d above : Document) (cursor : Nat) (t : Token) :
    (d.below above).mayFollow (above.length + 1 + cursor) (some (t.shift (above.length + 1))) =
      d.mayFollow cursor (some t) := by
  have hstart : (t.shift (above.length + 1)).start = above.length + 1 + t.start :=
    Nat.add_comm ..
  have hsame : (t.shift (above.length + 1)).text = t.text := rfl
  rw [mayFollow, mayFollow, hstart, hsame, lineNumber_below, lineNumber_below]
  simp

/-- A token above does not stand in the way of a call below. -/
theorem mayFollow_below_of_le (d : Document) {t : Token} (h : t.start ≤ above.length)
    (cursor : Nat) : (d.below above).mayFollow (above.length + 1 + cursor) (some t) = true := by
  have hlt := lineNumber_below_lt d h
  have hline := lineNumber_below d above cursor
  rw [mayFollow, Bool.or_eq_true, decide_eq_true_eq]
  omega

/-- A call that is open in a document is open below any other. -/
theorem opensModules_below (habove : above.chars.getLast? ≠ some '\r') (h : place ≤ d.length)
    {parenthesis quoted : Bool} (hopens : d.opensModules place parenthesis quoted = true) :
    (d.below above).opensModules (above.length + 1 + place : Nat) parenthesis quoted = true := by
  have hle : above.length + 1 + place ≤ (d.below above).length := by
    rw [length_below]
    exact Nat.add_le_add_left h _
  rw [opensModules_natCast h, Option.any_eq_true] at hopens
  obtain ⟨earlier, hearlier, hfollows⟩ := hopens
  have hcall := beforeRequire?_map (f := fun t => t.shift (above.length + 1)) (fun _ => rfl)
    (d.scanBackward place) parenthesis quoted
  rw [hearlier, Option.map_some] at hcall
  have hmore := beforeRequire?_append hcall (above.scanBackward above.length)
  rw [opensModules_natCast hle, scanBackward_below habove h, hmore, Option.any_some]
  cases earlier with
  | nil =>
    rw [List.map_nil, List.nil_append]
    cases hlast : (above.scanBackward above.length).head? with
    | none => rfl
    | some t =>
      obtain ⟨hpos, hstop⟩ := stop_le_of_mem_scanBackward le_rfl (List.mem_of_mem_head? hlast)
      exact mayFollow_below_of_le d (hpos.le.trans hstop) place
  | cons t rest =>
    rw [List.map_cons, List.cons_append, List.head?_cons, mayFollow_below]
    exact hfollows

/-- What a document above another changes for a cursor in the latter. -/
structure OnlyAppends (d above : Document) (cursor : Nat) : Prop where
  /-- The scan sees the same tokens, moved down, and then those of the document above. -/
  scan_eq : (d.below above).scanBackward (above.length + 1 + cursor : Nat) =
    (d.scanBackward cursor).map (·.shift (above.length + 1)) ++ above.scanBackward above.length
  /-- An open call stays open, whatever may come before the cursor. -/
  opens : ∀ parenthesis quoted, d.opensModules cursor parenthesis quoted = true →
    (d.below above).opensModules (above.length + 1 + cursor : Nat) parenthesis quoted = true

/-- Lines above a document only add to what a scan sees. -/
theorem below_only_appends (habove : above.chars.getLast? ≠ some '\r') (h : place ≤ d.length) :
    d.OnlyAppends above place :=
  ⟨scanBackward_below habove h, fun _ _ => opensModules_below habove h⟩

/-- A call that begins its document, below a line that ends with the point of a member. -/
theorem below_only_appends_member :
    let d := ofString "require('ht')"
    let above := ofString "/* a\r\nb = `c` +\n  d."
    above.scanBackward above.length =
        [⟨.operator, ".", 19⟩, ⟨.identifier, "d", 18⟩, ⟨.operator, "+", 14⟩, ⟨.template, "`c`", 10⟩,
          ⟨.operator, "=", 8⟩, ⟨.identifier, "b", 6⟩, ⟨.comment, "/* a", 0⟩] ∧
      d.opensModules 11 true true = true ∧
      above.chars.getLast? ≠ some '\r' ∧ 11 ≤ d.length ∧ d.OnlyAppends above 11 := by
  intro d above
  have hscan : above.scanBackward above.length =
      [⟨.operator, ".", 19⟩, ⟨.identifier, "d", 18⟩, ⟨.operator, "+", 14⟩, ⟨.template, "`c`", 10⟩,
        ⟨.operator, "=", 8⟩, ⟨.identifier, "b", 6⟩, ⟨.comment, "/* a", 0⟩] := by
    simp only [above]
    cbv
  have hopens : d.opensModules 11 true true = true := by
    simp only [d]
    cbv
  have hclean : above.chars.getLast? ≠ some '\r' := by decide
  have hinside : 11 ≤ d.length := by decide
  exact ⟨hscan, hopens, hclean, hinside, below_only_appends hclean hinside⟩

end Document

end ModuleHints

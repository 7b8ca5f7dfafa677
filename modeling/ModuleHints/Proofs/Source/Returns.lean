import ModuleHints.Proofs.Source.Walk

/-!
# Carriage returns before line feeds

A text may be written with a carriage return before each of its line feeds. Its lines are the same
then, but that each line that a line feed ends has a return at its end, which no token of the line
takes up. What stands on a line moves by the returns of the lines before it, one for each, so that a
scan sees the same tokens, each of them moved by the number of its line.
-/

namespace ModuleHints

@[simp] theorem Token.stop_shift (t : Token) (n : Nat) : (t.shift n).stop = t.stop + n :=
  Nat.add_right_comm ..

/-- The text with a carriage return before every line feed. -/
def insertReturns (cs : List Char) : List Char :=
  cs.flatMap fun c => if c = '\n' then ['\r', '\n'] else [c]

/-- The returns of one text have nothing to do with those of the next. -/
theorem insertReturns_append (a b : List Char) :
    insertReturns (a ++ b) = insertReturns a ++ insertReturns b :=
  List.flatMap_append

theorem insertReturns_feed (rest : List Char) :
    insertReturns ('\n' :: rest) = '\r' :: '\n' :: insertReturns rest := rfl

theorem insertReturns_cons {c : Char} (h : c ≠ '\n') (rest : List Char) :
    insertReturns (c :: rest) = c :: insertReturns rest := by
  rw [insertReturns, List.flatMap_cons, if_neg h]
  rfl

theorem insertReturns_of_not_mem {cs : List Char} (h : '\n' ∉ cs) : insertReturns cs = cs := by
  induction cs with
  | nil => rfl
  | cons c rest ih =>
    obtain ⟨hc, hrest⟩ := List.ne_and_not_mem_of_not_mem_cons h
    rw [insertReturns_cons hc.symm, ih hrest]

/-- There is one return for every line feed. -/
theorem length_insertReturns (cs : List Char) :
    (insertReturns cs).length = cs.length + cs.count '\n' := by
  induction cs with
  | nil => rfl
  | cons c rest ih =>
    by_cases hc : c = '\n'
    · rw [hc, insertReturns_feed, List.length_cons, List.length_cons, ih, List.length_cons,
        List.count_cons_self]
      omega
    · rw [insertReturns_cons hc, List.length_cons, ih, List.length_cons, List.count_cons_of_ne hc]
      omega

/-- Every line but the last one has a return at its end. -/
theorem splitLines_insertReturns {cs last : List Char} {earlier : List (List Char)}
    (h : splitLines cs = earlier ++ [last]) :
    splitLines (insertReturns cs) = earlier.map (· ++ ['\r']) ++ [last] := by
  induction earlier generalizing cs with
  | nil =>
    obtain ⟨head, rfl, hlen⟩ := exists_append_of_splitLines h
    cases List.eq_nil_of_length_eq_zero hlen
    have hmem : last ∈ splitLines ([] ++ last) := by
      rw [h]
      exact List.mem_singleton_self last
    have hlast : '\n' ∉ last := Text.not_mem_of_mem_pieces hmem
    rw [List.nil_append, insertReturns_of_not_mem hlast]
    exact Text.pieces_of_not_mem hlast
  | cons first earlier ih =>
    have hmem : first ∈ splitLines cs := h ▸ List.mem_cons_self ..
    have hfirst : '\n' ∉ first := Text.not_mem_of_mem_pieces hmem
    obtain ⟨rest, rfl, hrest⟩ := exists_cons_of_splitLines h (by simp)
    have hline : '\n' ∉ first ++ ['\r'] := by simp [hfirst]
    have hfeed : splitLines ('\n' :: insertReturns rest) =
        [] :: (earlier.map (· ++ ['\r']) ++ [last]) := by
      rw [splitLines, Text.pieces, if_pos rfl, ← splitLines, ih hrest]
    have hparts := splitLines_append_left hline hfeed
    rw [insertReturns_append, insertReturns_of_not_mem hfirst, insertReturns_feed]
    simpa using hparts

/-- The lines with their returns are longer by as many characters as there are lines. -/
theorem lengthOfLines_map_return (lines : List (List Char)) :
    lengthOfLines (lines.map (· ++ ['\r'])) = lengthOfLines lines + lines.length := by
  induction lines with
  | nil => rfl
  | cons line rest ih =>
    rw [List.map_cons, lengthOfLines, lengthOfLines, ih, List.length_append, List.length_singleton,
      List.length_cons]
    omega

namespace Document

/-- The document with a carriage return before every line feed. -/
def withReturns (d : Document) : Document := ⟨insertReturns d.chars⟩

/-- Where a place of a document stands in the one with returns: behind the returns of the line feeds
before it. -/
def placeWithReturns (d : Document) (place : Nat) : Nat := place + d.lineNumber place

/-- A token of a document as it stands in the one with returns. -/
def tokenWithReturns (d : Document) (t : Token) : Token := t.shift (d.lineNumber t.start)

variable {d : Document} {place : Nat}

/-- The text before a place gets its returns, and so does the text behind it. -/
theorem chars_withReturns (h : place ≤ d.length) :
    d.withReturns.chars = insertReturns (d.chars.take place) ++ insertReturns (d.chars.drop place) ∧
      (insertReturns (d.chars.take place)).length = d.placeWithReturns place := by
  constructor
  · rw [← insertReturns_append, List.take_append_drop]
    rfl
  · rw [length_insertReturns, List.length_take_of_le h, placeWithReturns, lineNumber_natCast]

namespace LinesAround

variable {earlier later : List (List Char)} {before after : List Char}

/-- The lines around a place where it stands with returns: each earlier line ends with one, and so
does the line of the place if another follows it. -/
theorem withReturns (h : d.LinesAround place earlier before after later) :
    ∃ after' later', d.withReturns.LinesAround (d.placeWithReturns place)
        (earlier.map (· ++ ['\r'])) before after' later' ∧
      (later = [] ∧ after' = after ∧ later' = [] ∨
        later ≠ [] ∧ after' = after ++ ['\r'] ∧ later' ≠ []) := by
  obtain ⟨hchars, hplace⟩ := chars_withReturns h.le
  have hbefore := splitLines_insertReturns h.before_eq
  obtain ⟨after', later', hafter, hcases⟩ : ∃ after' later',
      splitLines (insertReturns (d.chars.drop place)) = after' :: later' ∧
        (later = [] ∧ after' = after ∧ later' = [] ∨
          later ≠ [] ∧ after' = after ++ ['\r'] ∧ later' ≠ []) := by
    rcases List.eq_nil_or_concat' later with rfl | ⟨middle, last, rfl⟩
    · have hone : splitLines (d.chars.drop place) = [] ++ [after] := h.after_eq
      exact ⟨after, [], splitLines_insertReturns hone, .inl ⟨rfl, rfl, rfl⟩⟩
    · have hmore : splitLines (d.chars.drop place) = (after :: middle) ++ [last] := h.after_eq
      exact ⟨_, _, splitLines_insertReturns hmore, .inr ⟨by simp, rfl, by simp⟩⟩
  have haround := linesAround_append hbefore hafter
  rw [hplace, ← hchars] at haround
  exact ⟨after', later', haround, hcases⟩

/-- A line says the same with returns as without them. -/
theorem lineText_withReturns (h : d.LinesAround place earlier before after later)
    (hreturn : '\r' ∉ d.chars) :
    d.withReturns.lineText earlier.length = d.lineText earlier.length := by
  have hclean : '\r' ∉ before ++ after := fun hmem => hreturn (h.mem_of_mem_line hmem)
  obtain ⟨after', later', h', hcases⟩ := h.withReturns
  have htext := h'.lineText_eq
  rw [List.length_map] at htext
  rw [htext, h.lineText_eq]
  rcases hcases with ⟨rfl, rfl, rfl⟩ | ⟨hlater, rfl, hlater'⟩
  · rfl
  · rw [if_neg hlater, if_neg hlater', withoutReturn_of_not_mem hclean, ← List.append_assoc,
      withoutReturn_concat]

/-- The tokens of a part of the line stand behind the returns of the lines before it. -/
theorem tokensFrom_withReturns (h : d.LinesAround place earlier before after later)
    {text : List Char} (htext : text <+: before ++ after) :
    Lexer.tokensFrom none (lengthOfLines (earlier.map (· ++ ['\r']))) text =
      (Lexer.tokensFrom none (lengthOfLines earlier) text).map d.tokenWithReturns := by
  rw [lengthOfLines_map_return]
  refine (Lexer.tokensFrom_shift earlier.length none _ text).trans (List.map_congr_left ?_)
  intro t ht
  rw [tokenWithReturns, (h.lineNumber_of_mem htext ht).1]

end LinesAround

/-- A place of the document stands in the one with returns, and on the same line. -/
theorem lineNumber_withReturns (h : place ≤ d.length) :
    d.placeWithReturns place ≤ d.withReturns.length ∧
      d.withReturns.lineNumber (d.placeWithReturns place) = d.lineNumber place := by
  obtain ⟨earlier, before, after, later, hlines⟩ := exists_linesAround h
  obtain ⟨after', later', hlines', -⟩ := hlines.withReturns
  refine ⟨hlines'.le, ?_⟩
  rw [hlines'.lineNumber_eq, hlines.lineNumber_eq, List.length_map]

/-- The tokens of a line up to a place of it are the same with returns as without them. -/
theorem classify_withReturns (h : place ≤ d.length) :
    d.withReturns.classify (d.withReturns.lineStart (d.lineNumber place))
        (d.placeWithReturns place) =
      (d.classify (d.lineStart (d.lineNumber place)) place).map d.tokenWithReturns := by
  obtain ⟨earlier, before, after, later, hlines⟩ := exists_linesAround h
  obtain ⟨after', later', hlines', -⟩ := hlines.withReturns
  have hclassify := hlines'.classify_eq
  rw [List.length_map] at hclassify
  rw [hlines.lineNumber_eq, hclassify, hlines.classify_eq,
    hlines.tokensFrom_withReturns (List.prefix_append ..)]

/-- The end of a line has lines around it. -/
theorem exists_linesAround_lineStop {line : Nat} (h : line < d.lineCount) :
    ∃ earlier before after later,
      d.LinesAround (d.lineStop line) earlier before after later ∧ earlier.length = line := by
  obtain ⟨earlier, rest, later, hstop, hline⟩ := exists_linesAround_lineText h le_rfl
  rw [← lineStop] at hstop
  exact ⟨_, _, _, _, hstop, hline⟩

/-- A line ends behind the returns of the lines before it. -/
theorem lineStop_withReturns (hreturn : '\r' ∉ d.chars) {line : Nat} (h : line < d.lineCount) :
    d.withReturns.lineStop line = d.placeWithReturns (d.lineStop line) := by
  obtain ⟨earlier, before, after, later, hlines, rfl⟩ := exists_linesAround_lineStop h
  obtain ⟨after', later', hlines', -⟩ := hlines.withReturns
  have hstart := hlines'.lineStart_eq
  rw [List.length_map, lengthOfLines_map_return] at hstart
  rw [lineStop, hstart, hlines.lineText_withReturns hreturn, placeWithReturns,
    hlines.lineNumber_eq, lineStop, hlines.lineStart_eq, Nat.add_right_comm]

/-- The walk up the lines reads the same tokens with returns as without them. -/
theorem walkBackward_withReturns (hreturn : '\r' ∉ d.chars) {line : Nat} (h : place ≤ d.length)
    (hline : d.lineNumber place = line) :
    d.withReturns.walkBackward line (d.placeWithReturns place) =
      (d.walkBackward line place).map d.tokenWithReturns := by
  induction line generalizing place with
  | zero =>
    have hclassify := classify_withReturns h
    rw [hline] at hclassify
    rw [walkBackward, walkBackward, hclassify, List.map_reverse]
  | succ line ih =>
    have hclassify := classify_withReturns h
    rw [hline] at hclassify
    have hcount : line < d.lineCount := by
      have hlt := d.lineNumber_lt place
      omega
    obtain ⟨earlier, before, after, later, hlines, hnumber⟩ := exists_linesAround_lineStop hcount
    have hrest := ih hlines.le (hlines.lineNumber_eq.trans hnumber)
    rw [walkBackward, walkBackward, hclassify, lineStop_withReturns hreturn hcount, hrest,
      List.map_append, List.map_reverse]

/-- A scan sees the same tokens with returns as without them. -/
theorem scanBackward_withReturns (hreturn : '\r' ∉ d.chars) (h : place ≤ d.length) :
    d.withReturns.scanBackward (d.placeWithReturns place) =
      (d.scanBackward place).map d.tokenWithReturns := by
  obtain ⟨hle, hline⟩ := lineNumber_withReturns h
  rw [scanBackward_eq_walkBackward, scanBackward_eq_walkBackward, clamp_of_le hle, clamp_of_le h,
    hline, walkBackward_withReturns hreturn h rfl]

/-- A token that a scan sees ends, with returns, where the place of its end stands. -/
theorem stop_tokenWithReturns {t : Token} (h : place ≤ d.length) (ht : t ∈ d.scanBackward place) :
    (d.tokenWithReturns t).stop = d.placeWithReturns t.stop := by
  rw [placeWithReturns, lineNumber_stop_of_mem_scanBackward h ht, tokenWithReturns,
    Token.stop_shift]

end Document

end ModuleHints

import ModuleHints.Proofs.Source.Classify

/-!
# Walking up the lines

A scan is a walk over the whole document: it reads the cursor's line up to the cursor, goes up one
line after another, and reads each from its beginning to its end. Where these are is computed from
all lines of the document, the later ones included, and yet the walk finds what the scan reads off
the text before the cursor.
-/

namespace ModuleHints

/-- A text parts before any of its lines. -/
theorem exists_append_of_splitLines_cons {cs line : List Char} {earlier later : List (List Char)}
    (h : splitLines cs = earlier ++ line :: later) :
    ∃ head tail, cs = head ++ tail ∧ splitLines head = earlier ++ [[]] ∧
      splitLines tail = line :: later := by
  induction earlier generalizing cs with
  | nil => exact ⟨[], cs, rfl, rfl, h⟩
  | cons first earlier ih =>
    obtain ⟨rest, rfl, hrest⟩ := exists_cons_of_splitLines h (by simp)
    obtain ⟨head, tail, rfl, hhead, htail⟩ := ih hrest
    refine ⟨first ++ '\n' :: head, tail, by simp, ?_, htail⟩
    have hmem : first ∈ Text.pieces '\n' (first ++ '\n' :: (head ++ tail)) := by
      rw [← splitLines, h]
      exact List.mem_cons_self ..
    have hfirst := Text.not_mem_of_mem_pieces hmem
    have hfeed : splitLines ('\n' :: head) = [] :: (earlier ++ [[]]) := by
      rw [splitLines, Text.pieces, if_pos rfl, ← splitLines, hhead]
    rw [splitLines_append_left hfirst hfeed, List.append_nil, List.cons_append]

/-- The last of several ended lines comes last. -/
theorem endedTokens_append_singleton (offset : Nat) (earlier : List (List Char))
    (line : List Char) :
    endedTokens offset (earlier ++ [line]) =
      endedTokens offset earlier ++
        Lexer.tokensFrom none (offset + lengthOfLines earlier) (withoutReturn line) := by
  rw [endedTokens_append, endedTokens, endedTokens, List.append_nil]

namespace Document

/-- The tokens before a place of a line, nearest first: those of the line up to the place, and then
those of each earlier line from its beginning to its end. -/
def walkBackward (d : Document) : (line place : Nat) → List Token
  | 0, place => (d.classify (d.lineStart 0) place).reverse
  | line + 1, place =>
    (d.classify (d.lineStart (line + 1)) place).reverse ++ d.walkBackward line (d.lineStop line)

variable {d : Document} {place : Nat}

/-- The beginning of a line has lines around it. -/
theorem linesAround_lineStart {line : List Char} {earlier later : List (List Char)}
    (h : d.lines = earlier ++ line :: later) :
    d.LinesAround (lengthOfLines earlier) earlier [] line later := by
  obtain ⟨chars⟩ := d
  obtain ⟨head, tail, rfl, hhead, htail⟩ := exists_append_of_splitLines_cons h
  have haround := linesAround_append hhead htail
  have hplace := haround.place_eq
  rw [List.length_nil, Nat.add_zero] at hplace
  rwa [hplace] at haround

/-- The tokens of a line up to a place are those of the text up to there. -/
theorem LinesAround.classify_eq {earlier later : List (List Char)} {before after : List Char}
    (h : d.LinesAround place earlier before after later) :
    d.classify (d.lineStart earlier.length) place =
      Lexer.tokensFrom none (lengthOfLines earlier) before := by
  have hplace := h.place_eq
  have hle := h.le
  have hstart : lengthOfLines earlier ≤ d.length := by omega
  have hslice := h.slice_eq (n := before.length) (by rw [List.length_append]; omega)
  rw [List.take_left, ← hplace] at hslice
  rw [classify, h.lineStart_eq, clamp_of_le hstart, clamp_of_le hle, Lexer.tokens, hslice]

/-- The walk from the end of a line that others follow reads all ended lines up to it. -/
theorem walkBackward_lineStop {line : List Char} {earlier later : List (List Char)}
    (h : d.lines = earlier ++ line :: later) (hlater : later ≠ []) :
    d.walkBackward earlier.length (d.lineStop earlier.length) =
      (endedTokens 0 (earlier ++ [line])).reverse := by
  induction earlier using List.reverseRecOn generalizing line later with
  | nil =>
    have haround := linesAround_lineStart h
    have hline := haround.classifyLine_eq
    rw [haround.lineText_eq, if_neg hlater, List.nil_append] at hline
    rw [List.length_nil, walkBackward, endedTokens_append_singleton, endedTokens, List.nil_append,
      Nat.zero_add]
    exact congrArg List.reverse hline
  | append_singleton earlier previous ih =>
    have haround := linesAround_lineStart h
    have hline := haround.classifyLine_eq
    rw [haround.lineText_eq, if_neg hlater, List.nil_append, classifyLine] at hline
    rw [List.append_assoc, List.singleton_append] at h
    rw [endedTokens_append_singleton, List.reverse_append, Nat.zero_add, ← hline,
      List.length_append, List.length_singleton, walkBackward, ih h (by simp)]

/-- A scan is the walk from the cursor up its line and all earlier ones. -/
theorem scanBackward_eq_walkBackward (d : Document) (cursor : Int) :
    d.scanBackward cursor = d.walkBackward (d.lineNumber cursor) (d.clamp cursor) := by
  obtain ⟨earlier, before, after, later, hlines⟩ := exists_linesAround (d.clamp_le cursor)
  have hscan := hlines.scanBackward_eq
  have hline := hlines.lineNumber_eq
  have hclassify := hlines.classify_eq
  rw [scanBackward_clamp] at hscan
  rw [lineNumber_clamp] at hline
  rw [hscan, hline]
  rcases List.eq_nil_or_concat' earlier with rfl | ⟨earlier, previous, rfl⟩
  · rw [List.length_nil] at hclassify ⊢
    rw [walkBackward, hclassify, endedTokens, List.reverse_nil, List.append_nil]
  · have hwhole := hlines.lines_eq
    rw [List.append_assoc, List.singleton_append] at hwhole
    rw [List.length_append, List.length_singleton] at hclassify ⊢
    rw [walkBackward, hclassify, walkBackward_lineStop hwhole (by simp)]

/-- A line parts the lines of the document. -/
theorem exists_lines_eq {line : Nat} (h : line < d.lineCount) :
    ∃ earlier text later, d.lines = earlier ++ text :: later ∧ earlier.length = line := by
  have hdrop : d.lines.drop line = d.lines[line] :: d.lines.drop (line + 1) :=
    List.drop_eq_getElem_cons h
  refine ⟨d.lines.take line, d.lines[line], d.lines.drop (line + 1), ?_,
    List.length_take_of_le (Nat.le_of_lt h)⟩
  rw [← hdrop, List.take_append_drop]

/-- A place in what a line says has lines around it. -/
theorem exists_linesAround_lineText {line n : Nat} (h : line < d.lineCount)
    (hn : n ≤ (d.lineText line).length) :
    ∃ earlier rest later,
      d.LinesAround (d.lineStart line + n) earlier ((d.lineText line).take n) rest later ∧
        earlier.length = line := by
  obtain ⟨earlier, text, later, hlines, rfl⟩ := exists_lines_eq h
  have haround := linesAround_lineStart hlines
  obtain ⟨rest, hplace⟩ := haround.at_lineText hn
  rw [← haround.lineStart_eq] at hplace
  exact ⟨earlier, rest, later, hplace, rfl⟩

/-- A line says no more than there is up to its line feed. -/
theorem lineStop_le_lineStart (d : Document) (line : Nat) :
    d.lineStop line ≤ d.lineStart line + (d.lines.getD line []).length := by
  have hprefix := withoutReturn_prefix (d.lines.getD line [])
  rw [lineStop, lineText]
  split
  · exact Nat.add_le_add_left hprefix.length_le _
  · exact le_rfl

namespace LinesAround

variable {earlier later : List (List Char)} {before after : List Char}

/-- Behind the end of a line there is at most its carriage return. -/
theorem le_lineStop_succ (h : d.LinesAround place earlier before after later) :
    place ≤ d.lineStop earlier.length + 1 := by
  rw [lineStop, h.lineStart_eq]
  have hplace := h.place_eq
  rcases h.lineText_cases with ⟨rest, htext⟩ | hbefore
  · rw [htext, List.length_append]
    omega
  · have hlen := congrArg List.length hbefore
    rw [List.length_append, List.length_singleton] at hlen
    omega

end LinesAround

/-- The tokens of a line begin on it. -/
theorem lineNumber_of_mem_classify {line stop : Nat} {t : Token} (hline : line < d.lineCount)
    (hstop : stop ≤ d.lineStart line + (d.lines.getD line []).length)
    (ht : t ∈ d.classify (d.lineStart line) stop) : d.lineNumber t.start = line := by
  obtain ⟨earlier, text, later, hlines, rfl⟩ := exists_lines_eq hline
  have haround := linesAround_lineStart hlines
  have htext : d.lines.getD earlier.length [] = text := by simp [hlines]
  rw [haround.lineStart_eq, htext] at hstop
  rw [classify, haround.lineStart_eq, clamp_of_le haround.le] at ht
  obtain ⟨hle, hge, -⟩ := Lexer.mem_tokens ht
  have hpos := Lexer.start_lt_stop_of_mem ht
  have hclamp : d.clamp stop ≤ stop := by
    rw [clamp, Int.toNat_natCast]
    exact Nat.min_le_left ..
  obtain ⟨n, hn⟩ := Nat.exists_eq_add_of_le hle
  rw [hn]
  exact haround.lineNumber_add (by rw [List.nil_append]; omega)

/-- A token of a walk is one of its line: of the part before the place on the line where the walk
begins, and of the whole line on an earlier one. -/
theorem mem_walkBackward {line : Nat} {t : Token} (hline : line < d.lineCount)
    (hplace : place ≤ d.lineStart line + (d.lines.getD line []).length)
    (ht : t ∈ d.walkBackward line place) :
    (d.lineNumber t.start = line ∧ t ∈ d.classify (d.lineStart line) place) ∨
      (d.lineNumber t.start < line ∧ t ∈ d.classifyLine (d.lineNumber t.start)) := by
  induction line generalizing place with
  | zero =>
    rw [walkBackward, List.mem_reverse] at ht
    exact .inl ⟨lineNumber_of_mem_classify hline hplace ht, ht⟩
  | succ line ih =>
    rw [walkBackward, List.mem_append, List.mem_reverse] at ht
    rcases ht with ht | ht
    · exact .inl ⟨lineNumber_of_mem_classify hline hplace ht, ht⟩
    · right
      rcases ih (Nat.lt_of_succ_lt hline) (d.lineStop_le_lineStart line) ht with
        ⟨hnumber, hmem⟩ | ⟨hlt, hmem⟩
      · exact ⟨by omega, by rwa [hnumber]⟩
      · exact ⟨Nat.lt_succ_of_lt hlt, hmem⟩

/-- A token that a scan sees is one of its line: of the part before the cursor on the cursor's line,
and of the whole line on an earlier one. -/
theorem mem_scanBackward {cursor : Int} {t : Token} (ht : t ∈ d.scanBackward cursor) :
    (d.lineNumber t.start = d.lineNumber cursor ∧
        t ∈ d.classify (d.lineStart (d.lineNumber cursor)) (d.clamp cursor)) ∨
      (d.lineNumber t.start < d.lineNumber cursor ∧ t ∈ d.classifyLine (d.lineNumber t.start)) := by
  rw [scanBackward_eq_walkBackward] at ht
  refine mem_walkBackward (d.lineNumber_lt cursor) ?_ ht
  obtain ⟨earlier, before, after, later, hlines⟩ := exists_linesAround (d.clamp_le cursor)
  have hnumber := hlines.lineNumber_eq
  have hplace := hlines.place_eq
  have htext : d.lines.getD earlier.length [] = before ++ after := by simp [hlines.lines_eq]
  rw [lineNumber_clamp] at hnumber
  rw [hnumber, hlines.lineStart_eq, htext, List.length_append]
  omega

/-- A token that a scan sees is read from the beginning of some line. -/
theorem exists_mem_classify {cursor : Int} {t : Token} (ht : t ∈ d.scanBackward cursor) :
    ∃ line < d.lineCount, ∃ stop, t ∈ d.classify (d.lineStart line) stop := by
  rcases mem_scanBackward ht with ⟨-, hmem⟩ | ⟨-, hmem⟩
  · exact ⟨_, d.lineNumber_lt cursor, _, hmem⟩
  · exact ⟨_, d.lineNumber_lt t.start, _, hmem⟩

/-- A token that a scan sees shows the characters of its place. -/
theorem text_of_mem_scanBackward {cursor : Int} {t : Token} (ht : t ∈ d.scanBackward cursor) :
    t.text.toList = d.slice t.start t.stop := by
  obtain ⟨line, -, stop, hmem⟩ := exists_mem_classify ht
  exact text_of_mem_tokens hmem

/-- A token that a scan sees ends on the line where it begins. -/
theorem lineNumber_stop_of_mem_scanBackward {t : Token} (h : place ≤ d.length)
    (ht : t ∈ d.scanBackward place) : d.lineNumber t.stop = d.lineNumber t.start := by
  rcases mem_scanBackward ht with ⟨-, hmem⟩ | ⟨-, hmem⟩
  · obtain ⟨earlier, before, after, later, hlines⟩ := exists_linesAround h
    rw [hlines.lineNumber_eq, clamp_of_le h, hlines.classify_eq] at hmem
    obtain ⟨hstart, hstop⟩ := hlines.lineNumber_of_mem (List.prefix_append ..) hmem
    rw [hstart, hstop]
  · obtain ⟨hpos, hstop⟩ := stop_le_of_mem_scanBackward h ht
    have hinside : t.start ≤ d.length := by omega
    obtain ⟨earlier, before, after, later, hlines⟩ := exists_linesAround hinside
    rw [hlines.lineNumber_eq, hlines.classifyLine_eq] at hmem
    obtain ⟨hstart, hstop⟩ := hlines.lineNumber_of_mem hlines.lineText_prefix hmem
    rw [hstart, hstop]

end Document

end ModuleHints

import Mathlib.Data.List.Basic
import ModuleHints.Source.Document

/-!
# The lines around a place

A place in a document parts its text, and the lines of the two parts are those of the document: the
lines before the place's own, the two parts of that line, and the lines after it. All that is asked
of a place (its line, where that line begins and ends, what it says) is read off these four.
-/

namespace ModuleHints

namespace Text

theorem pieces_of_not_mem {separator : Char} {cs : List Char} (h : separator ∉ cs) :
    pieces separator cs = [cs] := by
  induction cs with
  | nil => rfl
  | cons c rest ih =>
    rw [List.mem_cons, not_or] at h
    rw [pieces, if_neg (Ne.symm h.1), ih h.2, List.modifyHead_cons]

/-- No piece holds a separator. -/
theorem not_mem_of_mem_pieces {separator : Char} {cs piece : List Char}
    (h : piece ∈ pieces separator cs) : separator ∉ piece := by
  induction cs generalizing piece with
  | nil =>
    rw [pieces, List.mem_singleton] at h
    rw [h]
    exact List.not_mem_nil
  | cons c rest ih =>
    rw [pieces] at h
    split at h
    next =>
      rcases List.mem_cons.mp h with rfl | h
      · exact List.not_mem_nil
      · exact ih h
    next hc =>
      cases hp : pieces separator rest with
      | nil => exact absurd hp (pieces_ne_nil _ _)
      | cons first others =>
        rw [hp] at h
        rw [List.modifyHead_cons] at h
        rcases List.mem_cons.mp h with rfl | h
        · rw [List.mem_cons, not_or]
          exact ⟨Ne.symm hc, ih (hp ▸ List.mem_cons_self ..)⟩
        · exact ih (hp ▸ List.mem_cons_of_mem _ h)

/-- Two texts written one after the other share one piece, in which the last of the one meets the
first of the other. -/
theorem pieces_append {separator : Char} {a b : List Char} {earlier later : List (List Char)}
    {left right : List Char} (ha : pieces separator a = earlier ++ [left])
    (hb : pieces separator b = right :: later) :
    pieces separator (a ++ b) = earlier ++ (left ++ right) :: later := by
  induction a generalizing earlier left with
  | nil =>
    cases earlier with
    | nil =>
      obtain ⟨rfl, -⟩ := List.cons.inj ha
      exact hb
    | cons line earlier => simp [pieces] at ha
  | cons c rest ih =>
    rw [List.cons_append, pieces]
    rw [pieces] at ha
    split at ha
    next hc =>
      rw [if_pos hc]
      cases earlier with
      | nil => exact absurd (List.cons.inj ha).2 (pieces_ne_nil _ _)
      | cons first earlier =>
        obtain ⟨rfl, hrest⟩ := List.cons.inj ha
        rw [ih hrest, List.cons_append]
    next hc =>
      rw [if_neg hc]
      cases hp : pieces separator rest with
      | nil => exact absurd hp (pieces_ne_nil _ _)
      | cons first others =>
        rw [hp, List.modifyHead_cons] at ha
        cases earlier with
        | nil =>
          obtain ⟨rfl, rfl⟩ := List.cons.inj ha
          have hone : pieces separator rest = [] ++ [first] := hp
          rw [ih hone]
          rfl
        | cons line earlier =>
          obtain ⟨rfl, rfl⟩ := List.cons.inj ha
          have hmore : pieces separator rest = (first :: earlier) ++ [left] := hp
          rw [ih hmore]
          rfl

end Text

/-- A text is its last line after all that its other lines and their line feeds take up. -/
theorem exists_append_of_splitLines {cs line : List Char} {earlier : List (List Char)}
    (h : splitLines cs = earlier ++ [line]) :
    ∃ head, cs = head ++ line ∧ head.length = lengthOfLines earlier := by
  induction cs generalizing earlier line with
  | nil =>
    cases earlier with
    | nil => exact ⟨[], (List.cons.inj h).1, rfl⟩
    | cons first earlier => simp [splitLines, Text.pieces] at h
  | cons c rest ih =>
    rw [splitLines, Text.pieces] at h
    split at h
    next =>
      cases earlier with
      | nil => exact absurd (List.cons.inj h).2 (Text.pieces_ne_nil _ _)
      | cons first earlier =>
        obtain ⟨rfl, hrest⟩ := List.cons.inj h
        obtain ⟨head, hhead, hlen⟩ := ih hrest
        refine ⟨c :: head, by rw [hhead, List.cons_append], ?_⟩
        rw [List.length_cons, hlen, lengthOfLines, List.length_nil]
        omega
    next =>
      cases hp : Text.pieces '\n' rest with
      | nil => exact absurd hp (Text.pieces_ne_nil _ _)
      | cons first others =>
        rw [hp, List.modifyHead_cons] at h
        cases earlier with
        | nil =>
          obtain ⟨rfl, rfl⟩ := List.cons.inj h
          have hone : splitLines rest = [] ++ [first] := hp
          obtain ⟨head, hhead, hlen⟩ := ih hone
          cases List.eq_nil_of_length_eq_zero hlen
          exact ⟨[], by rw [hhead]; rfl, rfl⟩
        | cons _ earlier =>
          rw [List.cons_append] at h
          obtain ⟨rfl, rfl⟩ := List.cons.inj h
          have hmore : splitLines rest = (first :: earlier) ++ [line] := hp
          obtain ⟨head, hhead, hlen⟩ := ih hmore
          refine ⟨c :: head, by rw [hhead, List.cons_append], ?_⟩
          rw [lengthOfLines] at hlen ⊢
          rw [List.length_cons, List.length_cons, hlen]
          omega

/-- A text with more than one line goes on behind the first one's line feed. -/
theorem exists_cons_of_splitLines {cs first : List Char} {more : List (List Char)}
    (h : splitLines cs = first :: more) (hne : more ≠ []) :
    ∃ rest, cs = first ++ '\n' :: rest ∧ splitLines rest = more := by
  induction cs generalizing first more with
  | nil =>
    obtain ⟨-, rfl⟩ := List.cons.inj h
    contradiction
  | cons c cs ih =>
    rw [splitLines, Text.pieces] at h
    split at h
    next hc =>
      obtain ⟨rfl, rfl⟩ := List.cons.inj h
      exact ⟨cs, by rw [hc, List.nil_append], rfl⟩
    next hc =>
      obtain ⟨line, others, hp⟩ := List.exists_cons_of_ne_nil (Text.pieces_ne_nil '\n' cs)
      rw [hp, List.modifyHead_cons] at h
      obtain ⟨rfl, rfl⟩ := List.cons.inj h
      obtain ⟨rest, rfl, hrest⟩ := ih hp hne
      exact ⟨rest, rfl, hrest⟩

/-- A text begins with its first line. -/
theorem take_of_splitLines {cs line : List Char} {later : List (List Char)}
    (h : splitLines cs = line :: later) : cs.take line.length = line := by
  induction cs generalizing line later with
  | nil =>
    obtain ⟨rfl, -⟩ := List.cons.inj h
    rfl
  | cons c rest ih =>
    rw [splitLines, Text.pieces] at h
    split at h
    next =>
      obtain ⟨rfl, -⟩ := List.cons.inj h
      rfl
    next =>
      cases hp : Text.pieces '\n' rest with
      | nil => exact absurd hp (Text.pieces_ne_nil _ _)
      | cons first others =>
        rw [hp, List.modifyHead_cons] at h
        obtain ⟨rfl, -⟩ := List.cons.inj h
        rw [List.length_cons, List.take_succ_cons, ih hp]

/-- A text without line feeds lengthens the first line of the text that it is written before. -/
theorem splitLines_append_left {w cs line : List Char} {later : List (List Char)} (hw : '\n' ∉ w)
    (h : splitLines cs = line :: later) : splitLines (w ++ cs) = (w ++ line) :: later := by
  have hone : Text.pieces '\n' w = [] ++ [w] := Text.pieces_of_not_mem hw
  exact Text.pieces_append hone h

/-- A text without line feeds lengthens the last line of the text that it is written after. -/
theorem splitLines_append_right {w cs line : List Char} {earlier : List (List Char)} (hw : '\n' ∉ w)
    (h : splitLines cs = earlier ++ [line]) : splitLines (cs ++ w) = earlier ++ [line ++ w] :=
  Text.pieces_append h (Text.pieces_of_not_mem hw)

theorem exists_splitLines_concat (cs : List Char) :
    ∃ earlier last, splitLines cs = earlier ++ [last] :=
  (List.eq_nil_or_concat' (splitLines cs)).resolve_left (splitLines_ne_nil cs)

/-- The last character of a text, if it is no line feed, is the last one of its last line. -/
theorem getLast?_of_splitLines {cs last : List Char} {earlier : List (List Char)} {c : Char}
    (h : splitLines cs = earlier ++ [last]) (hlast : cs.getLast? = some c) (hc : c ≠ '\n') :
    last.getLast? = some c := by
  obtain ⟨earlier', last', hinit⟩ := exists_splitLines_concat cs.dropLast
  have hmore := splitLines_append_right (w := [c]) (by simpa using hc.symm) hinit
  rw [List.dropLast_append_getLast? c hlast, h] at hmore
  rw [(List.cons.inj (List.append_inj' hmore rfl).2).1, List.getLast?_concat]

/-- A line feed between two texts parts their lines. -/
theorem splitLines_append_feed (a b : List Char) :
    splitLines (a ++ '\n' :: b) = splitLines a ++ splitLines b := by
  obtain ⟨earlier, last, hlast⟩ := exists_splitLines_concat a
  have hfeed : Text.pieces '\n' ('\n' :: b) = [] :: splitLines b := by
    rw [Text.pieces, if_pos rfl, splitLines]
  have hparts : splitLines (a ++ '\n' :: b) = earlier ++ (last ++ []) :: splitLines b :=
    Text.pieces_append hlast hfeed
  rw [hparts, hlast, List.append_nil, List.append_assoc, List.singleton_append]

theorem lengthOfLines_append (earlier later : List (List Char)) :
    lengthOfLines (earlier ++ later) = lengthOfLines earlier + lengthOfLines later := by
  induction earlier with
  | nil => rw [List.nil_append, lengthOfLines, Nat.zero_add]
  | cons first earlier ih =>
    rw [List.cons_append, lengthOfLines, ih, lengthOfLines]
    omega

theorem withoutReturn_of_not_mem {line : List Char} (h : '\r' ∉ line) :
    withoutReturn line = line := by
  rw [withoutReturn, if_neg]
  exact fun hlast => h (List.mem_of_getLast? hlast)

theorem withoutReturn_concat (line : List Char) : withoutReturn (line ++ ['\r']) = line := by
  rw [withoutReturn, if_pos List.getLast?_concat, List.dropLast_concat]

/-- A line is what it says and, perhaps, a carriage return. -/
theorem withoutReturn_cases (line : List Char) :
    line = withoutReturn line ∨ line = withoutReturn line ++ ['\r'] := by
  rw [withoutReturn]
  split
  next h => exact .inr (List.dropLast_append_getLast? _ h).symm
  next => exact .inl rfl

namespace Document

theorem clamp_clamp (d : Document) (offset : Int) : d.clamp (d.clamp offset) = d.clamp offset :=
  clamp_of_le (d.clamp_le offset)

theorem lineNumber_clamp (d : Document) (offset : Int) :
    d.lineNumber (d.clamp offset) = d.lineNumber offset := by
  rw [lineNumber, lineNumber, clamp_clamp]

theorem drop_clamp (d : Document) (offset : Int) :
    d.chars.drop (d.clamp offset) = d.chars.drop offset.toNat := by
  rw [clamp]
  rcases Nat.le_total offset.toNat d.length with hle | hge
  · rw [Nat.min_eq_left hle]
  · have hnone : d.chars.drop offset.toNat = [] := List.drop_of_length_le hge
    rw [Nat.min_eq_right hge, length, List.drop_length, hnone]

/-- The line of an offset is counted by the line feeds before it. -/
theorem lineNumber_natCast (d : Document) (n : Nat) :
    d.lineNumber n = (d.chars.take n).count '\n' := by
  have htake : d.chars.take (min n d.chars.length) = d.chars.take n := by
    rw [← List.take_take, List.take_length]
  rw [lineNumber, clamp, Int.toNat_natCast, length, htake]

/-- The text before a place is the text before an earlier one and what stands between the two. -/
theorem before_eq_append (d : Document) {a b : Int} (h : a ≤ b) :
    d.before b = d.before a ++ d.slice a b := by
  have hle : d.clamp a ≤ d.clamp b := by
    rw [clamp, clamp]
    omega
  have hcut := List.take_append_drop (d.clamp a) (d.chars.take (d.clamp b))
  rw [List.take_take, Nat.min_eq_left hle] at hcut
  exact hcut.symm

/-- A later place is not on an earlier line. -/
theorem lineNumber_mono (d : Document) {a b : Int} (h : a ≤ b) :
    d.lineNumber a ≤ d.lineNumber b := by
  have hbefore := congrArg (List.count '\n') (d.before_eq_append h)
  rw [List.count_append] at hbefore
  rw [lineNumber, lineNumber, ← before, ← before, hbefore]
  exact Nat.le_add_right ..

/-- Two places are on one line where no line feed stands between them. -/
theorem lineNumber_eq_iff (d : Document) {a b : Int} (h : a ≤ b) :
    d.lineNumber a = d.lineNumber b ↔ '\n' ∉ d.slice a b := by
  have hbefore := congrArg (List.count '\n') (d.before_eq_append h)
  rw [List.count_append] at hbefore
  rw [← List.count_eq_zero, lineNumber, lineNumber, ← before, ← before, hbefore]
  omega

theorem extentOf_eq_ok (d : Document) {line : Nat} {place : Int} (h : line ≤ d.lineNumber place) :
    d.extentOf line = .ok (d.lineStart line, d.lineStop line) := by
  rw [extentOf, lineExtent?, if_pos (Nat.lt_of_le_of_lt h (d.lineNumber_lt place))]

/-- Whether a place parts the carriage return of a line break from its line feed. -/
def InLineBreak (d : Document) (place : Nat) : Prop :=
  (d.chars.take place).getLast? = some '\r' ∧ d.chars[place]? = some '\n'

instance (d : Document) (place : Nat) : Decidable (d.InLineBreak place) :=
  inferInstanceAs (Decidable (_ ∧ _))

/-- The lines around a place: those before its own, what stands on its own line before it and after
it, and the lines after that. -/
structure LinesAround (d : Document) (place : Nat) (earlier : List (List Char))
    (before after : List Char) (later : List (List Char)) : Prop where
  /-- The place lies in the document. -/
  le : place ≤ d.length
  /-- The lines of what comes before the place. -/
  before_eq : splitLines (d.chars.take place) = earlier ++ [before]
  /-- The lines of what comes after the place. -/
  after_eq : splitLines (d.chars.drop place) = after :: later

/-- Every place has lines around it. -/
theorem exists_linesAround {d : Document} {place : Nat} (h : place ≤ d.length) :
    ∃ earlier before after later, d.LinesAround place earlier before after later := by
  obtain ⟨earlier, before, hbefore⟩ := exists_splitLines_concat (d.chars.take place)
  obtain ⟨after, later, hafter⟩ := List.exists_cons_of_ne_nil
    (splitLines_ne_nil (d.chars.drop place))
  exact ⟨_, _, after, later, h, hbefore, hafter⟩

/-- The lines around the place where two texts meet. -/
theorem linesAround_append {a b before after : List Char} {earlier later : List (List Char)}
    (ha : splitLines a = earlier ++ [before]) (hb : splitLines b = after :: later) :
    LinesAround ⟨a ++ b⟩ a.length earlier before after later where
  le := by simp [length]
  before_eq := by rw [List.take_left, ha]
  after_eq := by rw [List.drop_left, hb]

namespace LinesAround

variable {d : Document} {place : Nat} {earlier later : List (List Char)} {before after : List Char}

/-- The lines of the document. -/
theorem lines_eq (h : d.LinesAround place earlier before after later) :
    d.lines = earlier ++ (before ++ after) :: later := by
  rw [lines, ← List.take_append_drop place d.chars]
  exact Text.pieces_append h.before_eq h.after_eq

/-- The place counts the characters of the lines before its own and of the part before it. -/
theorem place_eq (h : d.LinesAround place earlier before after later) :
    place = lengthOfLines earlier + before.length := by
  obtain ⟨head, hhead, hlen⟩ := exists_append_of_splitLines h.before_eq
  have hplace := List.length_take_of_le h.le
  rw [hhead, List.length_append, hlen] at hplace
  exact hplace.symm

/-- No line feed stands on the line of the place. -/
theorem newline_not_mem (h : d.LinesAround place earlier before after later) :
    '\n' ∉ before ++ after := by
  have hlines := h.lines_eq
  rw [lines, splitLines] at hlines
  have hmem : before ++ after ∈ Text.pieces '\n' d.chars := by
    rw [hlines]
    exact List.mem_append_right _ (List.mem_cons_self ..)
  exact Text.not_mem_of_mem_pieces hmem

/-- The line of the place. -/
theorem lineNumber_eq (h : d.LinesAround place earlier before after later) :
    d.lineNumber place = earlier.length := by
  have hlen := Text.length_pieces '\n' (d.chars.take place)
  rw [← splitLines, h.before_eq, List.length_append, List.length_singleton] at hlen
  rw [lineNumber, clamp_of_le h.le]
  omega

theorem lineStart_eq (h : d.LinesAround place earlier before after later) :
    d.lineStart earlier.length = lengthOfLines earlier := by
  rw [lineStart, h.lines_eq, List.take_left]

/-- What the line of the place says, without its line break. -/
theorem lineText_eq (h : d.LinesAround place earlier before after later) :
    d.lineText earlier.length =
      if later = [] then before ++ after else withoutReturn (before ++ after) := by
  have hcount : d.lineCount = earlier.length + 1 + later.length := by
    rw [lineCount, h.lines_eq, List.length_append, List.length_cons]
    omega
  have hline : d.lines.getD earlier.length [] = before ++ after := by
    simp [h.lines_eq]
  rw [lineText, hline, hcount]
  cases later with
  | nil => simp
  | cons line later => simp

/-- The characters of a line up to one of its places. -/
theorem slice_eq (h : d.LinesAround place earlier before after later) {n : Nat}
    (hn : n ≤ (before ++ after).length) :
    (d.chars.take (lengthOfLines earlier + n)).drop (lengthOfLines earlier) =
      (before ++ after).take n := by
  obtain ⟨head, hhead, hlen⟩ := exists_append_of_splitLines h.before_eq
  obtain ⟨tail, htail⟩ := List.prefix_iff_eq_take.mpr (take_of_splitLines h.after_eq).symm
  have hchars : d.chars = head ++ (before ++ after) ++ tail := by
    rw [← List.take_append_drop place d.chars, hhead, ← htail]
    simp only [List.append_assoc]
  rw [hchars, ← hlen, List.append_assoc, List.take_length_add_append, List.drop_left,
    List.take_append_of_le_length hn]

/-- What stands on the line stands in the document. -/
theorem mem_of_mem_line (h : d.LinesAround place earlier before after later) {c : Char}
    (hc : c ∈ before ++ after) : c ∈ d.chars := by
  have hslice := h.slice_eq (Nat.le_refl _)
  rw [List.take_length] at hslice
  rw [← hslice] at hc
  exact List.mem_of_mem_take (List.mem_of_mem_drop hc)

/-- What the line says, if it goes on behind the place with a character that no line break has. -/
theorem exists_lineText_eq {c : Char} (h : d.LinesAround place earlier before (c :: after) later)
    (hc : c ≠ '\r') : ∃ rest, d.lineText earlier.length = before ++ c :: rest := by
  rw [h.lineText_eq]
  split
  · exact ⟨after, rfl⟩
  · rw [withoutReturn]
    split
    next hreturn =>
      have hne : after ≠ [] := by
        rintro rfl
        rw [List.getLast?_append, List.getLast?_singleton] at hreturn
        exact hc (Option.some.inj hreturn)
      refine ⟨after.dropLast, ?_⟩
      rw [List.dropLast_append_of_ne_nil (List.cons_ne_nil c after),
        List.dropLast_cons_of_ne_nil hne]
    next => exact ⟨after, rfl⟩

/-- What the line says goes on behind the place, unless the place parts its line break. -/
theorem lineText_cases (h : d.LinesAround place earlier before after later) :
    (∃ rest, d.lineText earlier.length = before ++ rest) ∨
      before = d.lineText earlier.length ++ ['\r'] := by
  rw [h.lineText_eq]
  split
  · exact .inl ⟨after, rfl⟩
  · rw [withoutReturn]
    split
    next hreturn =>
      by_cases hafter : after = []
      · right
        rw [hafter, List.append_nil] at hreturn ⊢
        exact (List.dropLast_append_getLast? '\r' hreturn).symm
      · left
        exact ⟨after.dropLast, List.dropLast_append_of_ne_nil hafter⟩
    next => exact .inl ⟨after, rfl⟩

/-- The place parts its line break where the part of the line before it has the return that the
line leaves out. -/
theorem inLineBreak_iff (h : d.LinesAround place earlier before after later) :
    d.InLineBreak place ↔ before = d.lineText earlier.length ++ ['\r'] := by
  constructor
  · rintro ⟨hreturn, hfeed⟩
    have hafter : after = [] ∧ later ≠ [] := by
      rw [← List.head?_drop, List.head?_eq_some_iff] at hfeed
      obtain ⟨rest, hrest⟩ := hfeed
      have hlines := h.after_eq
      rw [hrest, splitLines, Text.pieces, if_pos rfl] at hlines
      obtain ⟨rfl, rfl⟩ := List.cons.inj hlines
      exact ⟨rfl, Text.pieces_ne_nil '\n' rest⟩
    have hbefore := getLast?_of_splitLines h.before_eq hreturn (by decide)
    rw [h.lineText_eq, if_neg hafter.2, hafter.1, List.append_nil, withoutReturn, if_pos hbefore]
    exact (List.dropLast_append_getLast? '\r' hbefore).symm
  · intro hbefore
    have hlength := congrArg List.length hbefore
    rw [List.length_append, List.length_singleton, h.lineText_eq] at hlength
    have hlater : later ≠ [] := by
      intro hnil
      rw [if_pos hnil, List.length_append] at hlength
      omega
    have hafter : after = [] := by
      rw [if_neg hlater, withoutReturn] at hlength
      split at hlength
      · rw [List.length_dropLast, List.length_append] at hlength
        exact List.eq_nil_of_length_eq_zero (by omega)
      · rw [List.length_append] at hlength
        omega
    obtain ⟨rest, hrest, -⟩ := exists_cons_of_splitLines h.after_eq hlater
    obtain ⟨head, hhead, -⟩ := exists_append_of_splitLines h.before_eq
    rw [hafter, List.nil_append] at hrest
    rw [InLineBreak, ← List.head?_drop, hrest, hhead, hbefore, ← List.append_assoc]
    exact ⟨List.getLast?_concat, rfl⟩

/-- Only between the two characters of its line break does a place lie behind the end of its line. -/
theorem le_lineStop (h : d.LinesAround place earlier before after later)
    (hbreak : ¬d.InLineBreak place) : place ≤ d.lineStop earlier.length := by
  obtain ⟨rest, htext⟩ := h.lineText_cases.resolve_right fun hbefore =>
    hbreak (h.inLineBreak_iff.mpr hbefore)
  rw [lineStop, h.lineStart_eq, htext, List.length_append, ← Nat.add_assoc, ← h.place_eq]
  exact Nat.le_add_right ..

/-- A place is named by its line and by the characters before it on the line. -/
theorem positionAt_eq (h : d.LinesAround place earlier before after later) :
    d.positionAt place = (earlier.length, before.length) := by
  have hplace := h.place_eq
  have hcharacter : place - lengthOfLines earlier = before.length := by omega
  rw [positionAt, h.lineNumber_eq, h.lineStart_eq, clamp_of_le h.le, hcharacter]

/-- All places of a line are on it. -/
theorem lineNumber_add (h : d.LinesAround place earlier before after later) {n : Nat}
    (hn : n ≤ (before ++ after).length) :
    d.lineNumber (lengthOfLines earlier + n : Nat) = earlier.length := by
  obtain ⟨head, hhead, hlen⟩ := exists_append_of_splitLines h.before_eq
  have hfirst : d.chars.take (lengthOfLines earlier) = head := by
    have hcut := congrArg (List.take (lengthOfLines earlier)) hhead
    rwa [List.take_take, Nat.min_eq_left (h.place_eq ▸ Nat.le_add_right ..),
      List.take_left' hlen] at hcut
  have hline := List.take_append_drop (lengthOfLines earlier)
    (d.chars.take (lengthOfLines earlier + n))
  rw [List.take_take, Nat.min_eq_left (Nat.le_add_right ..), hfirst, h.slice_eq hn] at hline
  have hbefore : before.count '\n' = 0 :=
    List.count_eq_zero.mpr fun hmem => h.newline_not_mem (List.mem_append_left _ hmem)
  have hpart : ((before ++ after).take n).count '\n' = 0 :=
    List.count_eq_zero.mpr fun hmem => h.newline_not_mem (List.mem_of_mem_take hmem)
  rw [← h.lineNumber_eq, lineNumber_natCast, lineNumber_natCast, hhead, ← hline, List.count_append,
    List.count_append, hbefore, hpart]

/-- Any other place of the same line. -/
theorem at_place (h : d.LinesAround place earlier before after later) {n : Nat}
    (hn : n ≤ (before ++ after).length) :
    d.LinesAround (lengthOfLines earlier + n) earlier ((before ++ after).take n)
      ((before ++ after).drop n) later := by
  have hle : lengthOfLines earlier + n ≤ d.length := by
    have hlen := congrArg List.length (h.slice_eq hn)
    have hplace := h.place_eq
    have hinside := h.le
    rw [List.length_drop, List.length_take, List.length_take_of_le hn] at hlen
    rw [length] at hinside ⊢
    omega
  obtain ⟨earlier', before', after', later', h'⟩ := exists_linesAround hle
  have hcount : earlier'.length = earlier.length := by
    rw [← h'.lineNumber_eq, h.lineNumber_add hn]
  obtain ⟨rfl, hrest⟩ := List.append_inj (h'.lines_eq.symm.trans h.lines_eq) hcount
  obtain ⟨hline, rfl⟩ := List.cons.inj hrest
  have hbefore : before'.length = n := by
    have hplace := h'.place_eq
    omega
  subst hbefore
  rw [← hline, List.take_left, List.drop_left]
  exact h'

/-- An earlier place of the same line. -/
theorem left {w v : List Char} (h : d.LinesAround place earlier (w ++ v) after later) :
    d.LinesAround (lengthOfLines earlier + w.length) earlier w (v ++ after) later := by
  have hplace := h.at_place (n := w.length) (by rw [List.append_assoc, List.length_append]; omega)
  rwa [List.append_assoc, List.take_left, List.drop_left] at hplace

theorem take_succ {c : Char} (h : d.LinesAround place earlier before (c :: after) later) :
    d.chars.take (place + 1) = d.chars.take place ++ [c] := by
  have hfirst := congrArg (List.take 1) (take_of_splitLines h.after_eq)
  rw [List.take_take, List.length_cons, Nat.min_eq_left (Nat.le_add_left 1 _)] at hfirst
  rw [List.take_add, hfirst]
  rfl

end LinesAround

end Document

end ModuleHints

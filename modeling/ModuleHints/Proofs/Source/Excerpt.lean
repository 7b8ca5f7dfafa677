import Mathlib
import ModuleHints.Source.Cursor
import ModuleHints.Proofs.Source.Classify
import ModuleHints.Proofs.Source.Walk

/-!
# The line that an excerpt shows

A refused cursor is shown in an excerpt: the line that it names, and a caret below. The line is
numbered by line feeds alone, but looked up among the lines that a reader sees, which end at other
characters too. As long as no such character stands on the lines above, the excerpt shows the named
line up to the first of them, and so the whole of it exactly where there is none.
-/

namespace ModuleHints

namespace Text

/-- What a reader sees of a line: all up to the first break. -/
def visiblePart (cs : List Char) : List Char := cs.takeWhile fun c => !isVisibleBreak c

variable {cs w : List Char} {c : Char}

theorem visiblePart_eq_self_iff : visiblePart cs = cs ↔ ∀ c ∈ cs, isVisibleBreak c = false := by
  rw [visiblePart, List.takeWhile_eq_self_iff]
  simp only [Bool.not_eq_true']

/-- What comes behind a break is not seen. -/
theorem visiblePart_append_break (hc : isVisibleBreak c = true) (w rest : List Char) :
    visiblePart (w ++ c :: rest) = visiblePart w := by
  induction w with
  | nil => simp [visiblePart, hc]
  | cons d w ih =>
    unfold visiblePart at ih ⊢
    rw [List.cons_append, List.takeWhile_cons, List.takeWhile_cons, ih]

theorem visibleLines_feed (rest : List Char) :
    visibleLines ('\n' :: rest) = [] :: visibleLines rest := rfl

theorem visibleLines_return_feed (rest : List Char) :
    visibleLines ('\r' :: '\n' :: rest) = [] :: visibleLines rest := rfl

/-- A break ends a line, together with the line feed behind it if it is a carriage return. -/
theorem visibleLines_break (hc : isVisibleBreak c = true) (cs : List Char) :
    visibleLines (c :: cs) = [] :: visibleLines cs ∨
      ∃ rest, cs = '\n' :: rest ∧ visibleLines (c :: cs) = [] :: visibleLines rest := by
  by_cases hreturn : ∃ rest, c = '\r' ∧ cs = '\n' :: rest
  · obtain ⟨rest, rfl, rfl⟩ := hreturn
    exact .inr ⟨rest, rfl, visibleLines_return_feed rest⟩
  · left
    rw [visibleLines, if_pos hc]
    exact fun rest hc hcs => hreturn ⟨rest, hc, hcs⟩

/-- A character that is no break belongs to the first line of what it is written before. -/
theorem visibleLines_cons (hc : isVisibleBreak c = false) (rest : List Char) :
    visibleLines (c :: rest) =
      (c :: (visibleLines rest).headD []) :: (visibleLines rest).tail := by
  have hreturn : c ≠ '\r' := fun h => absurd (h ▸ hc) (by decide)
  rw [visibleLines]
  · rw [hc, if_neg Bool.false_ne_true]
    cases visibleLines rest <;> rfl
  · exact fun _ h => absurd h hreturn

/-- A text without breaks lengthens the first line of the text that it is written before. -/
theorem visibleLines_append (hw : ∀ c ∈ w, isVisibleBreak c = false) {line : List Char}
    {lines : List (List Char)} (h : visibleLines cs = line :: lines) :
    visibleLines (w ++ cs) = (w ++ line) :: lines := by
  induction w with
  | nil => exact h
  | cons c w ih =>
    rw [List.forall_mem_cons] at hw
    rw [List.cons_append, visibleLines_cons hw.1, ih hw.2]
    rfl

/-- A text without breaks is one line, or none. -/
theorem visibleLines_tail (h : ∀ c ∈ cs, isVisibleBreak c = false) :
    (visibleLines cs).tail = [] := by
  induction cs with
  | nil => rfl
  | cons c cs ih =>
    rw [List.forall_mem_cons] at h
    rw [visibleLines_cons h.1, List.tail_cons, ih h.2]

/-- No break stands on a line that a reader sees. -/
theorem isVisibleBreak_of_mem {line : List Char} (h : line ∈ visibleLines cs) (hc : c ∈ line) :
    isVisibleBreak c = false := by
  fun_induction visibleLines cs generalizing line with
  | case1 => exact absurd h List.not_mem_nil
  | case2 rest ih | case3 d rest hreturn hd ih =>
    rcases List.mem_cons.mp h with rfl | hmore
    · exact absurd hc List.not_mem_nil
    · exact ih hmore hc
  | case4 d rest hreturn hd hrest ih =>
    rw [List.mem_singleton.mp h, List.mem_singleton] at hc
    rw [hc, Bool.eq_false_iff.mpr hd]
  | case5 d rest hreturn hd first lines hrest ih =>
    rw [hrest] at ih
    rcases List.mem_cons.mp h with rfl | hmore
    · rcases List.mem_cons.mp hc with rfl | hfirst
      · exact Bool.eq_false_iff.mpr hd
      · exact ih (List.mem_cons_self ..) hfirst
    · exact ih (List.mem_cons_of_mem _ hmore) hc

/-- The first line that a reader sees. -/
theorem headD_visibleLines (cs : List Char) : (visibleLines cs).headD [] = visiblePart cs := by
  induction cs with
  | nil => rfl
  | cons c cs ih =>
    cases hc : isVisibleBreak c with
    | true =>
      have hpart : visiblePart (c :: cs) = [] := visiblePart_append_break hc [] cs
      rw [hpart]
      rcases visibleLines_break hc cs with hlines | ⟨rest, -, hlines⟩ <;> rw [hlines] <;> rfl
    | false =>
      rw [visibleLines_cons hc, List.headD_cons, ih, visiblePart, visiblePart, List.takeWhile_cons,
        hc]
      rfl

end Text

/-- A reader sees of an ended line what is seen of what it says. -/
theorem visiblePart_append_feed (line rest : List Char) :
    Text.visiblePart (line ++ '\n' :: rest) = Text.visiblePart (withoutReturn line) := by
  rw [Text.visiblePart_append_break rfl]
  rcases withoutReturn_cases line with hline | hline
  · rw [← hline]
  · nth_rewrite 1 [hline]
    exact Text.visiblePart_append_break rfl _ []

/-- An ended line that has no breaks is a line to a reader too. -/
theorem visibleLines_append_feed {line : List Char}
    (h : ∀ c ∈ withoutReturn line, Text.isVisibleBreak c = false) (rest : List Char) :
    Text.visibleLines (line ++ '\n' :: rest) = withoutReturn line :: Text.visibleLines rest := by
  have hlines := Text.visibleLines_append h (Text.visibleLines_feed rest)
  have hreturn := Text.visibleLines_append h (Text.visibleLines_return_feed rest)
  rw [List.append_nil] at hlines hreturn
  rcases withoutReturn_cases line with hline | hline
  · rwa [← hline] at hlines ⊢
  · rwa [List.append_cons, ← hline] at hreturn

namespace Document

section Texts

variable {cs line : List Char} {n : Nat}

theorem lineText_of_not_mem (h : '\n' ∉ cs) :
    lineText ⟨cs⟩ n = if n = 0 then cs else [] := by
  have hlines : lines ⟨cs⟩ = [cs] := Text.pieces_of_not_mem h
  rw [lineText, lineCount, hlines]
  cases n <;> rfl

/-- The lines of a text that begins with an ended line. -/
theorem lines_append_feed (h : '\n' ∉ line) (rest : List Char) :
    lines ⟨line ++ '\n' :: rest⟩ = line :: lines ⟨rest⟩ := by
  have hline : splitLines line = [line] := Text.pieces_of_not_mem h
  rw [lines, splitLines_append_feed, hline]
  rfl

theorem lineText_append_feed_zero (h : '\n' ∉ line) (rest : List Char) :
    lineText ⟨line ++ '\n' :: rest⟩ 0 = withoutReturn line := by
  have hpos : 0 < (lines ⟨rest⟩).length := List.length_pos_of_ne_nil (splitLines_ne_nil rest)
  rw [lineText, lineCount, lines_append_feed h, List.length_cons, if_pos (by omega)]
  rfl

theorem lineText_append_feed_succ (h : '\n' ∉ line) (rest : List Char) (n : Nat) :
    lineText ⟨line ++ '\n' :: rest⟩ (n + 1) = lineText ⟨rest⟩ n := by
  rw [lineText, lineText, lineCount, lineCount, lines_append_feed h, List.length_cons,
    List.getD_cons_succ]
  simp only [Nat.add_lt_add_iff_right]

end Texts

/-- If no breaks stand on the lines above, a reader sees the line of that number, up to its first
break. -/
theorem getD_visibleLines (d : Document) (n : Nat)
    (h : ∀ k < n, ∀ c ∈ d.lineText k, Text.isVisibleBreak c = false) :
    (Text.visibleLines d.chars).getD n [] = Text.visiblePart (d.lineText n) := by
  obtain ⟨cs⟩ := d
  induction n generalizing cs with
  | zero =>
    rw [← List.headD_eq_getD, Text.headD_visibleLines]
    by_cases hfeed : '\n' ∈ cs
    · obtain ⟨line, rest, rfl, hline⟩ := List.eq_append_cons_of_mem hfeed
      rw [lineText_append_feed_zero hline, visiblePart_append_feed]
    · rw [lineText_of_not_mem hfeed, if_pos rfl]
  | succ n ih =>
    by_cases hfeed : '\n' ∈ cs
    · obtain ⟨line, rest, rfl, hline⟩ := List.eq_append_cons_of_mem hfeed
      have hfirst := h 0 n.succ_pos
      rw [lineText_append_feed_zero hline] at hfirst
      rw [visibleLines_append_feed hfirst, List.getD_cons_succ, lineText_append_feed_succ hline]
      apply ih
      intro k hk
      rw [← lineText_append_feed_succ hline]
      exact h (k + 1) (Nat.succ_lt_succ hk)
    · have hfirst := h 0 n.succ_pos
      rw [lineText_of_not_mem hfeed, if_pos rfl] at hfirst
      rw [lineText_of_not_mem hfeed, if_neg n.succ_ne_zero, List.getD_eq_getElem?_getD,
        ← List.getElem?_tail, Text.visibleLines_tail hfirst]
      rfl

/-- The text of a numbered line, counted from one: the characters of its extent, and none if there
is no such line. -/
def extentText (d : Document) (line : Int) : List Char :=
  if 1 ≤ line then
    match d.lineExtent? (line - 1).toNat with
    | some (start, stop) => d.slice start stop
    | none => []
  else []

variable {d : Document}

/-- The extent of a line that exists holds what the line says. -/
theorem slice_lineExtent {n : Nat} (h : n < d.lineCount) :
    d.slice (d.lineStart n) (d.lineStop n) = d.lineText n := by
  obtain ⟨earlier, text, later, hlines, rfl⟩ := exists_lines_eq h
  have haround := linesAround_lineStart hlines
  rw [← haround.slice_line_eq, slice, clamp_of_le haround.lineStop_le, haround.lineStart_eq,
    clamp_of_le haround.le]

/-- The text of a line is what it says, also where there is no such line. -/
theorem extentText_eq (d : Document) (line : Int) :
    d.extentText line = if 1 ≤ line then d.lineText (line - 1).toNat else [] := by
  rw [extentText]
  split
  next =>
    rw [lineExtent?]
    by_cases hexists : (line - 1).toNat < d.lineCount
    · rw [if_pos hexists]
      exact slice_lineExtent hexists
    · rw [if_neg hexists, lineText, if_neg (by omega), List.getD_eq_getElem?_getD,
        List.getElem?_eq_none (Nat.le_of_not_lt hexists)]
      rfl
  next => rfl

/-- The line that an excerpt shows. -/
def shownLine (d : Document) (line : Int) : List Char :=
  if 1 ≤ line then (Text.visibleLines d.chars).getD (line - 1).toNat [] else []

/-- If no breaks stand on the lines above, an excerpt shows the line up to its first break. -/
theorem shownLine_eq {line : Int}
    (h : ∀ k < (line - 1).toNat, ∀ c ∈ d.lineText k, Text.isVisibleBreak c = false) :
    d.shownLine line = Text.visiblePart (d.extentText line) := by
  rw [shownLine, extentText_eq]
  split
  next => exact d.getD_visibleLines _ h
  next => rfl

/-- No line feed stands on the line that an excerpt shows. -/
theorem newline_not_mem_shownLine (d : Document) (line : Int) : '\n' ∉ d.shownLine line := by
  intro hfeed
  rw [shownLine] at hfeed
  split at hfeed
  next =>
    rw [List.getD_eq_getElem?_getD] at hfeed
    cases hline : (Text.visibleLines d.chars)[(line - 1).toNat]? with
    | none =>
      rw [hline] at hfeed
      exact List.not_mem_nil hfeed
    | some shown =>
      rw [hline] at hfeed
      exact absurd (Text.isVisibleBreak_of_mem (List.mem_of_getElem? hline) hfeed) (by decide)
  next => exact List.not_mem_nil hfeed

end Document

/-- The column on a line, counted from one, that is nearest to a given one. -/
def caretColumn (column : Int) (line : List Char) : Int := max 1 (min column (line.length + 1))

theorem one_le_caretColumn (column : Int) (line : List Char) : 1 ≤ caretColumn column line :=
  Int.le_max_left ..

/-- Whether the last lines of a text show a numbered line, and a caret below in the given column. -/
def ShowsAt (text : String) (number : Int) (line : List Char) (column : Int) : Prop :=
  ∃ above below, splitLines text.toList =
      above ++ [(toString number ++ " | ").toList ++ line, below ++ ['^']] ∧
    (below.length : Int) + 1 = (toString number ++ " | ").length + column

/-- A text shows one line at most, and one caret. -/
theorem ShowsAt.unique {text : String} {number column column' : Int} {line line' : List Char}
    (h : ShowsAt text number line column) (h' : ShowsAt text number line' column') :
    line = line' ∧ column = column' := by
  obtain ⟨above, below, htext, hcolumn⟩ := h
  obtain ⟨above', below', htext', hcolumn'⟩ := h'
  obtain ⟨-, hlast⟩ := List.append_inj' (htext.symm.trans htext') rfl
  obtain ⟨hline, hcaret⟩ := List.cons.inj hlast
  obtain ⟨rfl, -⟩ := List.append_inj' (List.cons.inj hcaret).1 rfl
  exact ⟨List.append_cancel_left hline, by omega⟩

/-- No line feed stands in a numeral. -/
theorem newline_not_mem_toString (i : Int) : '\n' ∉ (toString i).toList := by
  have hdigits (n : Nat) : '\n' ∉ n.repr.toList := by
    intro hfeed
    rw [Nat.repr, String.toList_ofList] at hfeed
    exact absurd (Nat.isDigit_of_mem_toDigits (by decide) (by decide) hfeed) (by decide)
  cases i with
  | ofNat n => exact hdigits n
  | negSucc n =>
    change '\n' ∉ ("-" ++ (n + 1).repr).toList
    rw [String.toList_append, List.mem_append, not_or]
    exact ⟨by decide, hdigits (n + 1)⟩

/-- What an excerpt has before its caret, below a line with the given number. -/
def beforeCaret (number : String) (column : Int) : List Char :=
  List.replicate (number.length + 1) ' ' ++ "| ".toList ++ List.replicate (column - 1).toNat ' '

/-- The caret stands in its column. -/
theorem length_beforeCaret (number : String) {column : Int} (h : 1 ≤ column) :
    ((beforeCaret number column).length : Int) + 1 = (number ++ " | ").length + column := by
  have hbar : "| ".toList.length = 2 := rfl
  have hgutter : " | ".length = 3 := rfl
  rw [beforeCaret, List.length_append, List.length_append, List.length_replicate,
    List.length_replicate, String.length_append, hbar, hgutter]
  omega

theorem newline_not_mem_beforeCaret (number : String) (column : Int) :
    '\n' ∉ beforeCaret number column := by
  simp [beforeCaret]

/-- An excerpt ends with the line and the caret. -/
theorem exists_toList_excerpt (message : String) (d : Document) (line column : Int)
    (file : String) :
    ∃ head, (excerpt message line column d.chars file).toList =
      head ++ '\n' :: ((toString line ++ " | ").toList ++ d.shownLine line ++ '\n' ::
        (beforeCaret (toString line) (caretColumn column (d.shownLine line)) ++ ['^'])) := by
  have hbar : "|\n".toList = ['|'] ++ '\n' :: [] := rfl
  have hfeed : "\n".toList = ['\n'] := rfl
  have hcaret : "^".toList = ['^'] := rfl
  refine ⟨("error: " ++ message ++ "\n" ++
    String.ofList (List.replicate ((toString line).length + 1) ' ') ++ "--> " ++ file ++ ":" ++
    toString line ++ ":" ++ toString column ++ "\n" ++
    String.ofList (List.replicate ((toString line).length + 1) ' ') ++ "|").toList, ?_⟩
  unfold excerpt beforeCaret
  simp only [String.toList_append, String.toList_ofList, List.append_assoc, hbar, hfeed, hcaret,
    List.cons_append, List.nil_append]
  rfl

/-- An excerpt shows the line of its number that a reader sees. -/
theorem showsAt_excerpt (message : String) (d : Document) (line column : Int) (file : String) :
    ShowsAt (excerpt message line column d.chars file) line (d.shownLine line)
      (caretColumn column (d.shownLine line)) := by
  obtain ⟨head, htext⟩ := exists_toList_excerpt message d line column file
  refine ⟨splitLines head, _, ?_, length_beforeCaret _ (one_le_caretColumn ..)⟩
  have hline : '\n' ∉ (toString line ++ " | ").toList ++ d.shownLine line := by
    rw [String.toList_append, List.mem_append, List.mem_append, not_or, not_or]
    exact ⟨⟨newline_not_mem_toString line, by decide⟩, d.newline_not_mem_shownLine line⟩
  have hcaret : '\n' ∉
      beforeCaret (toString line) (caretColumn column (d.shownLine line)) ++ ['^'] := by
    rw [List.mem_append, not_or]
    exact ⟨newline_not_mem_beforeCaret _ _, by decide⟩
  rw [htext, splitLines_append_feed, splitLines_append_feed]
  exact congrArg _ (congrArg₂ _ (Text.pieces_of_not_mem hline) (Text.pieces_of_not_mem hcaret))

/-- Whether the excerpt for a refused cursor shows the line that it names, with the caret in the
named column or just past the end of the line. -/
def ShowsNamedLine (d : Document) (e : CursorError) (file : String) : Prop :=
  ShowsAt (e.render d file) e.line (d.extentText e.line)
    (caretColumn e.column (d.extentText e.line))

/-- The named line is shown where a reader sees it under its number. -/
theorem showsNamedLine_iff {d : Document} {e : CursorError} {file : String} :
    ShowsNamedLine d e file ↔ d.shownLine e.line = d.extentText e.line := by
  have hshown := showsAt_excerpt e.fault.message d e.line e.column file
  constructor
  · exact fun hnamed => (hshown.unique hnamed).1
  · intro heq
    rwa [heq] at hshown

/-- The excerpt for a refused cursor shows what a reader sees as the line of the named number. If no
breaks stand on the lines above, that is the named line up to its first break, and so the named line
is shown if it has no breaks either. -/
theorem excerpt_shows_seen_line (d : Document) (name : CursorName) (file : String) :
    ∀ e : CursorError, d.resolve name = .error e →
      ShowsAt (e.render d file) e.line (d.shownLine e.line)
          (caretColumn e.column (d.shownLine e.line)) ∧
        ((∀ k < (e.line - 1).toNat, ∀ c ∈ d.lineText k, Text.isVisibleBreak c = false) →
          d.shownLine e.line = Text.visiblePart (d.extentText e.line) ∧
            (ShowsNamedLine d e file ↔
              ∀ c ∈ d.extentText e.line, Text.isVisibleBreak c = false)) := by
  intro e _
  refine ⟨showsAt_excerpt e.fault.message d e.line e.column file, fun habove => ?_⟩
  have hshown := d.shownLine_eq habove
  rw [showsNamedLine_iff, ← Text.visiblePart_eq_self_iff, ← hshown]
  exact ⟨rfl, Iff.rfl⟩

/-- A column behind the end of a line, below a line with a break of two characters. -/
theorem excerpt_shows_seen_line_past_end :
    let d := Document.ofString "if (x) \x7b\r\n  f(\r\n\x7d"
    let e : CursorError := ⟨.noPosition 2 9, 2, 9⟩
    d.resolve ⟨none, some 2, some 9⟩ = .error e ∧ d.extentText e.line = "  f(".toList ∧
      ShowsNamedLine d e "input.js" := by
  have hrefused : (Document.ofString "if (x) \x7b\r\n  f(\r\n\x7d").resolve
      ⟨none, some 2, some 9⟩ = .error ⟨.noPosition 2 9, 2, 9⟩ := by cbv
  intro d e
  have hfirst : d.lineText 0 = "if (x) \x7b".toList := by cbv
  have hline : d.extentText e.line = "  f(".toList := by cbv
  have habove : ∀ k < (e.line - 1).toNat, ∀ c ∈ d.lineText k, Text.isVisibleBreak c = false := by
    intro k hk
    obtain rfl : k = 0 := Nat.lt_one_iff.mp hk
    rw [hfirst]
    exact Text.visiblePart_eq_self_iff.mp (by decide)
  have hseen := (excerpt_shows_seen_line d _ "input.js" e hrefused).2 habove
  rw [hline] at hseen
  exact ⟨hrefused, hline, hseen.2.mpr (Text.visiblePart_eq_self_iff.mp (by decide))⟩

/-- A form feed ends the line to a reader, but not to the lexer. -/
theorem excerpt_hides_behind_form_feed :
    let d := Document.ofString "a\x0cb"
    let e : CursorError := ⟨.outside 10, 1, 4⟩
    d.resolve ⟨some 10, none, none⟩ = .error e ∧ d.extentText e.line = "a\x0cb".toList ∧
      ¬ShowsNamedLine d e "input.js" := by
  intro d e
  have hline : d.extentText e.line = "a\x0cb".toList := by cbv
  have hshown : d.shownLine e.line = "a".toList := by cbv
  rw [showsNamedLine_iff, hline, hshown]
  exact ⟨by cbv, rfl, by decide⟩

end ModuleHints

import Mathlib
import ModuleHints.Proofs.Lexing.Munch
import ModuleHints.Proofs.Source.Steps
import ModuleHints.Proofs.Require.Call

/-!
# The text of a call

Whether a call stands around a cursor is decided by tokens. Of the text this says: it ends with the
word `require`, an opening parenthesis and the string that is being typed, with nothing but blank
characters between them. No character of a word stands before the word. What stands before it on the
cursor's line does not end with a quotation mark or a backtick, nor with the point of a member.
-/

namespace ModuleHints

open Unicode

/-- Whether a text may end before a call on its line: its last character is no quotation mark and no
backtick, and if it is a point, then another stands before it. -/
def EndsBeforeCall (text : List Char) (mark : Char) : Prop :=
  mark ∉ ['\'', '"', '\x60'] ∧ (mark = '.' → text.getLast? = some '.')

instance (text : List Char) (mark : Char) : Decidable (EndsBeforeCall text mark) :=
  inferInstanceAs (Decidable (_ ∧ _))

/-- Punctuation and words after which an expression may begin do not end with a blank character, with
a quotation mark or with a backtick, and only dots end with a point. -/
theorem last_of_mem_expressionOpeners : ∀ text ∈ expressionOpeners,
    text.toList.getLast?.map isBlank = some false ∧
      text.toList.getLast? ∉ [some '\'', some '"', some '\x60'] ∧
      (text.toList.getLast? = some '.' → text.toList.dropLast.getLast? = some '.') := by
  decide +kernel

/-- A token after which an expression may begin does not end with a quotation mark or with the point
of a member. -/
theorem endsBeforeCall_of_startsExpression {text : String} (h : startsExpression text = true)
    {init : List Char} {mark : Char} (htext : text.toList = init ++ [mark]) :
    isBlank mark = false ∧ EndsBeforeCall init mark := by
  simp only [startsExpression, Bool.or_eq_true, Bool.and_eq_true, htext, List.getLast?_concat,
    beq_iff_eq, Option.some.injEq, List.contains_iff_mem] at h
  rcases h with (rfl | hopener) | ⟨hword, -⟩
  · exact ⟨by decide, by decide, fun hpoint => absurd hpoint (by decide)⟩
  · obtain ⟨hblank, hquote, hpoint⟩ := last_of_mem_expressionOpeners text hopener
    rw [htext, List.getLast?_concat] at hblank hquote hpoint
    rw [List.dropLast_concat] at hpoint
    refine ⟨Option.some.inj hblank, ?_, fun hmark => hpoint (congrArg some hmark)⟩
    intro hmem
    apply hquote
    simpa using hmem
  · have hmark : isIdentChar mark = true := List.all_eq_true.mp hword mark (by simp)
    refine ⟨isBlank_of_isIdentChar hmark, ?_, ?_⟩
    · intro hmem
      simp only [List.mem_cons, List.not_mem_nil, or_false] at hmem
      rcases hmem with rfl | rfl | rfl <;> exact absurd hmark (by decide)
    · rintro rfl
      exact absurd hmark (by decide)

/-- A spread ends with a point that may stand before a call, a member with one that may not. -/
example : startsExpression "..." = true ∧ EndsBeforeCall ['(', '.', '.'] '.' ∧
    ¬EndsBeforeCall ['a'] '.' := by
  decide

namespace Document

variable {d : Document} {place : Nat} {t : Token}

/-- Before the first character of a line stands a line feed, or nothing. -/
theorem getLast?_take_lineStart {line : Nat} (h : line < d.lineCount) :
    ∀ c ∈ (d.chars.take (d.lineStart line)).getLast?, c = '\n' := by
  intro c hc
  by_contra hfeed
  obtain ⟨earlier, text, later, hlines, rfl⟩ := exists_lines_eq h
  have haround := linesAround_lineStart hlines
  rw [haround.lineStart_eq] at hc
  have hline := getLast?_of_splitLines haround.before_eq hc hfeed
  cases hline

/-- Before a token of a scan that begins with a letter or a digit stands no character of a word. -/
theorem isIdentChar_before (ht : t ∈ d.scanBackward place) {first : Char}
    (hfirst : t.text.toList.head? = some first) (hc : first.isAlphanum = true) :
    ∀ c ∈ (d.chars.take t.start).getLast?, isIdentChar c = false := by
  obtain ⟨line, hline, stop, hmem⟩ := exists_mem_classify ht
  intro c hlast
  obtain ⟨earlier, text, later, hlines, rfl⟩ := exists_lines_eq hline
  have haround := linesAround_lineStart hlines
  rw [haround.lineStart_eq, classify, clamp_of_le haround.le, Lexer.tokens] at hmem
  have hstart := Lexer.le_start_of_mem hmem
  rcases hstart.lt_or_eq with hlt | hfirst
  · obtain ⟨i, hi⟩ := Nat.exists_eq_add_of_lt hlt
    have hstop := Lexer.stop_le_of_mem hmem
    have hpos := Lexer.start_lt_stop_of_mem hmem
    rw [List.length_drop, List.length_take] at hstop
    have hplace : ((d.chars.take (d.clamp stop)).drop (lengthOfLines earlier))[i]? = some c := by
      have hsome : d.chars[lengthOfLines earlier + i]? = some c := by
        rw [← hlast, hi, List.getLast?_take, if_neg (Nat.succ_ne_zero _), Nat.add_sub_cancel,
          List.getElem?_eq_getElem (by omega), Option.some_or]
      rw [List.getElem?_drop, List.getElem?_take, if_pos (by omega), hsome]
    exact Lexer.isIdentChar_before hmem hi.symm hplace hfirst hc
  · have hfeed := getLast?_take_lineStart hline
    rw [haround.lineStart_eq, hfirst] at hfeed
    rw [hfeed c hlast]
    decide

/-- The text of the string that a call may be read past. -/
def typedText (d : Document) (cursor : Int) (quoted : Bool) : List Char :=
  match d.scanBackward cursor with
  | [] => []
  | t :: _ => if quoted && t.openQuote?.isSome then t.text.toList else []

/-- What the text before a cursor is made of where a call ends it: the text before the call, and the
blank characters behind its word, its parenthesis and the string. -/
structure IsCallText (d : Document) (cursor : Int) (quoted : Bool) (x w₁ w₂ w₃ : List Char) :
    Prop where
  /-- The parts make up the text. -/
  before_eq : d.before cursor =
    x ++ "require".toList ++ w₁ ++ ['('] ++ w₂ ++ d.typedText cursor quoted ++ w₃
  /-- Only blank characters stand between the tokens of the call. -/
  blank : (w₁ ++ w₂ ++ w₃).all isBlank = true
  /-- The word of the call is a whole one. -/
  word : ∀ c ∈ x.getLast?, isIdentChar c = false
  /-- What stands before the call on its line may end there. -/
  ends : ∀ init mark blanks, x = init ++ mark :: blanks → isBlank mark = false →
    blanks.all isBlank = true → d.lineNumber init.length = d.lineNumber cursor →
    EndsBeforeCall init mark

/-- A call is read past its string back to where the string begins. -/
theorem exists_passQuoted (h : place ≤ d.length) (quoted : Bool) :
    ∃ start blanks, start ≤ place ∧
      passQuoted quoted (d.scanBackward place) = d.scanBackward start ∧
      d.chars.take place = d.chars.take start ++ d.typedText place quoted ++ blanks ∧
      blanks.all isBlank = true := by
  have hstay : d.chars.take place = d.chars.take place ++ [] ++ [] := by simp
  rw [typedText]
  cases hscan : d.scanBackward place with
  | nil => exact ⟨place, [], le_rfl, hscan.symm, hstay, rfl⟩
  | cons t rest =>
    dsimp only
    rw [passQuoted]
    split
    · obtain ⟨rfl, blanks, hlast⟩ := exists_lastBefore h hscan
      obtain ⟨hpos, hstop⟩ := hlast.stop_le h
      exact ⟨t.start, blanks, hpos.le.trans hstop, rfl, hlast.take_eq, hlast.blank⟩
    · exact ⟨place, [], le_rfl, hscan.symm, hstay, rfl⟩

/-- A token of a call is read past back to where it begins. -/
theorem exists_pass? (h : place ≤ d.length) {text : String} {rest : List Token}
    (hpass : pass? text (d.scanBackward place) = some rest) :
    ∃ t blanks, t.text = text ∧ t ∈ d.scanBackward place ∧ t.start ≤ place ∧
      rest = d.scanBackward t.start ∧
      d.chars.take place = d.chars.take t.start ++ text.toList ++ blanks ∧
      blanks.all isBlank = true := by
  obtain ⟨t, rfl, hscan⟩ := pass?_eq_some_iff.mp hpass
  obtain ⟨hrest, blanks, hlast⟩ := exists_lastBefore h hscan
  obtain ⟨hpos, hstop⟩ := hlast.stop_le h
  exact ⟨t, blanks, rfl, hscan ▸ List.mem_cons_self .., hpos.le.trans hstop, hrest, hlast.take_eq,
    hlast.blank⟩

/-- Where a call may follow, what stands before it on the line of the cursor may end there. -/
theorem endsBeforeCall_of_mayFollow {cursor : Nat} (h : place ≤ d.length) (hle : place ≤ cursor)
    (hfollows : d.mayFollow cursor (d.scanBackward place).head? = true) {init blanks : List Char}
    {mark : Char} (htake : d.chars.take place = init ++ mark :: blanks)
    (hmark : isBlank mark = false) (hblanks : blanks.all isBlank = true)
    (hline : d.lineNumber init.length = d.lineNumber cursor) : EndsBeforeCall init mark := by
  rcases lastBefore_cases h with ⟨-, hall⟩ | ⟨t, behind, hlast⟩
  · rw [htake] at hall
    simp [hmark] at hall
  · obtain ⟨hpos, hstop⟩ := hlast.stop_le h
    rw [hlast.scan_eq, List.head?_cons, mayFollow, Bool.or_eq_true, decide_eq_true_eq] at hfollows
    rcases hfollows with hother | hstarts
    · exfalso
      have hbefore := hlast.length_lt_stop h htake hmark
      have hnumber := lineNumber_stop_of_mem_scanBackward h
        (hlast.scan_eq ▸ List.mem_cons_self ..)
      have hup := d.lineNumber_mono (Int.ofNat_le.mpr hbefore.le)
      have hdown := d.lineNumber_mono (Int.ofNat_le.mpr ((hpos.le.trans hstop).trans hle))
      omega
    · have hne : t.text.toList ≠ [] := by
        intro hnil
        rw [Token.stop, ← String.length_toList, hnil] at hpos
        exact Nat.lt_irrefl _ hpos
      obtain ⟨text, last, htext⟩ := (List.eq_nil_or_concat' t.text.toList).resolve_left hne
      obtain ⟨hvisible, hquote, hpoint⟩ := endsBeforeCall_of_startsExpression hstarts htext
      obtain ⟨rfl, rfl⟩ := hlast.eq_of_visible htext hvisible htake hmark hblanks
      refine ⟨hquote, fun hdot => ?_⟩
      rw [List.getLast?_append, hpoint hdot, Option.some_or]

/-- A call before a place is the text before the place. -/
theorem exists_isCallText_natCast (h : place ≤ d.length) {quoted : Bool}
    (hopens : d.opensModules place true quoted = true) :
    ∃ x w₁ w₂ w₃, d.IsCallText place quoted x w₁ w₂ w₃ := by
  rw [opensModules_natCast h, Option.any_eq_true] at hopens
  obtain ⟨earlier, hcall, hfollows⟩ := hopens
  obtain ⟨rest, hparenthesis, hrequire⟩ := Option.bind_eq_some_iff.mp hcall
  obtain ⟨start, w₃, hle, hquoted, htake, hblank⟩ := exists_passQuoted h quoted
  rw [hquoted] at hparenthesis
  obtain ⟨t, w₂, -, -, hle₂, rfl, htake₂, hblank₂⟩ := exists_pass? (hle.trans h) hparenthesis
  obtain ⟨u, w₁, hword, hu, hle₁, rfl, htake₁, hblank₁⟩ :=
    exists_pass? ((hle₂.trans hle).trans h) hrequire
  have hstart : u.start ≤ place := (hle₁.trans hle₂).trans hle
  refine ⟨d.chars.take u.start, w₁, w₂, w₃, ?_, ?_, ?_, ?_⟩
  · rw [before, clamp_of_le h, htake, htake₂, htake₁]
    rfl
  · rw [List.all_append, List.all_append, hblank₁, hblank₂, hblank]
    rfl
  · have hfirst : u.text.toList.head? = some 'r' := by
      rw [hword]
      decide
    exact isIdentChar_before hu hfirst (by decide)
  · intro init mark blanks htake hmark hblanks hline
    exact endsBeforeCall_of_mayFollow (hstart.trans h) hstart hfollows htake hmark hblanks hline

/-- Where a call stands around a cursor, the text before the cursor is that of a call. -/
theorem exists_isCallText {cursor : Int} {quoted : Bool}
    (h : d.opensModules cursor true quoted = true) :
    ∃ x w₁ w₂ w₃, d.IsCallText cursor quoted x w₁ w₂ w₃ := by
  have hclamp : d.opensModules (d.clamp cursor) true quoted = true := by
    rwa [opensModules, requireVerdict?, scanBackward_clamp, clamp_clamp, ← requireVerdict?,
      ← opensModules]
  obtain ⟨x, w₁, w₂, w₃, hcall⟩ := exists_isCallText_natCast (d.clamp_le cursor) hclamp
  refine ⟨x, w₁, w₂, w₃, ?_, hcall.blank, hcall.word, ?_⟩
  · have hbefore := hcall.before_eq
    rwa [before, clamp_clamp, typedText, scanBackward_clamp] at hbefore
  · intro init mark blanks hx hmark hblanks hline
    refine hcall.ends init mark blanks hx hmark hblanks ?_
    rw [hline, lineNumber_clamp]

/-- A half-typed argument of a call that is spread, below a member. -/
theorem exists_isCallText_spread :
    let d := ofString "a.b\nf(...require ( 'ht') // c"
    d.typedText 22 true = ['\'', 'h', 't'] ∧ d.opensModules 22 true true = true ∧
      ∃ x w₁ w₂ w₃, d.IsCallText 22 true x w₁ w₂ w₃ := by
  intro d
  have htyped : d.typedText 22 true = ['\'', 'h', 't'] := by
    simp only [d]
    cbv
  have hopens : d.opensModules 22 true true = true := by
    simp only [d]
    cbv
  exact ⟨htyped, hopens, exists_isCallText hopens⟩

end Document

end ModuleHints

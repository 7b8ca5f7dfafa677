import Mathlib
import ModuleHints.Proofs.Require.Literal
import ModuleHints.Proofs.Source.Steps

/-!
# One answer for a whole literal

A cursor in a string literal parts it: the scan sees the literal as far as the cursor, and behind that
what a scan from the opening mark sees. The rest of the literal is read once more from the opening
mark on. So wherever the cursor stands in the literal, the verdict is the one that typing the mark
would get, and the argument is the literal without the mark.
-/

namespace ModuleHints

/-- A cut that leaves something of a token leaves the quotation mark that it begins with. -/
theorem Token.IsCutAt.openQuote?_eq {place : Nat} {whole left : Token}
    (h : IsCutAt place whole left) (hlt : whole.start < place) :
    left.openQuote? = whole.openQuote? := by
  have hsome : place - whole.start ≠ 0 := by omega
  rw [openQuote?, openQuote?, h.text_eq, List.head?_take, if_neg hsome]

namespace Document

variable {d : Document} {place cursor : Nat} {t u : Token} {q : Quote}

namespace LinesAround

variable {earlier later : List (List Char)} {before after : List Char}

/-- A cursor in a token of the line, or at one of its ends, is in the document and on the line. -/
theorem lineNumber_of_token (h : d.LinesAround place earlier before after later)
    (ht : t ∈ d.classifyLine earlier.length) (hlo : t.start ≤ cursor) (hhi : cursor ≤ t.stop) :
    cursor ≤ d.length ∧ d.lineNumber cursor = earlier.length := by
  rw [h.classifyLine_eq] at ht
  have hstop := Lexer.stop_le_of_mem ht
  obtain ⟨n, rfl⟩ := Nat.exists_eq_add_of_le ((Lexer.le_start_of_mem ht).trans hlo)
  obtain ⟨rest, hplace⟩ := h.at_lineText (n := n) (by omega)
  exact ⟨hplace.le, hplace.lineNumber_eq⟩

/-- A scan from a place in a token of the line, or from its end, sees the token cut there, and behind
it what a scan from the beginning of the token sees. -/
theorem exists_scanBackward_eq_cons (h : d.LinesAround place earlier before after later)
    (ht : t ∈ d.classifyLine earlier.length) (hlo : t.start < cursor) (hhi : cursor ≤ t.stop) :
    ∃ u, Token.IsCutAt cursor t u ∧ d.scanBackward cursor = u :: d.scanBackward t.start := by
  rw [h.classifyLine_eq] at ht
  have hstop := Lexer.stop_le_of_mem ht
  obtain ⟨tokens, others, hsplit⟩ := List.append_of_mem ht
  obtain ⟨n, rfl⟩ := Nat.exists_eq_add_of_le ((Lexer.le_start_of_mem ht).trans hlo.le)
  obtain ⟨u, hcut, hleft⟩ := Lexer.tokensFrom_take_of_mem hsplit hlo hhi
  obtain ⟨_, hhere⟩ := h.at_lineText (n := n) (by omega)
  obtain ⟨blanks, hlast⟩ := hhere.exists_lastBefore hleft
  exact ⟨u, hcut, by rw [hlast.scan_eq, hcut.start_eq]⟩

/-- A cursor in a literal of the line has the verdict that typing the opening mark would get. -/
theorem opensModules_in_literal (h : d.LinesAround place earlier before after later)
    (ht : t ∈ d.classifyLine earlier.length) (hquote : t.openQuote? = some q)
    (hlo : t.start < cursor) (hhi : cursor ≤ t.stop) :
    d.opensModules cursor true true = d.typingOpensModules t.start (String.singleton q.char) := by
  obtain ⟨u, hcut, hscan⟩ := h.exists_scanBackward_eq_cons ht hlo hhi
  obtain ⟨hstart, hstartLine⟩ := h.lineNumber_of_token ht le_rfl (hlo.le.trans hhi)
  obtain ⟨hcursor, hcursorLine⟩ := h.lineNumber_of_token ht hlo.le hhi
  have htyped : d.typingOpensModules t.start (String.singleton q.char) =
      d.opensModules t.start true false := by
    cases q <;> rfl
  have hmark : u.openQuote?.isSome := by
    rw [hcut.openQuote?_eq hlo, hquote]
    rfl
  rw [htyped]
  refine opensModules_congr hstart hcursor rfl (hcursorLine.trans hstartLine.symm) ?_
  rw [hscan, beforeRequire?_cons_quoted hmark]

/-- The literal that is read once more from its opening mark on is all of it. -/
theorem exists_literalAt?_eq (h : d.LinesAround place earlier before after later)
    (ht : t ∈ d.classifyLine earlier.length) (hquote : t.openQuote? = some q) :
    ∃ literal, d.literalAt? t.start = some literal ∧ literal.text.length = t.text.length := by
  have hpos : t.start < t.stop := Lexer.start_lt_stop_of_mem ht
  obtain ⟨-, hnumber⟩ := h.lineNumber_of_token ht le_rfl hpos.le
  rw [classifyLine, classify, clamp_of_le h.lineStop_le] at ht
  obtain ⟨hmark, hstop⟩ := Lexer.stop_of_quoted ht hquote
  obtain ⟨literal, hliteral, hbegins, -, hends⟩ := exists_literalAt?_of_quote hmark
  rw [hnumber, ← hstop] at hends
  rw [Token.stop, Token.stop, hbegins] at hends
  exact ⟨literal, hliteral, Nat.add_left_cancel hends⟩

/-- The argument at a cursor in a literal of the line is all of the literal behind its opening
mark. -/
theorem argumentAt_in_literal (h : d.LinesAround place earlier before after later)
    (ht : t ∈ d.classifyLine earlier.length) (hquote : t.openQuote? = some q)
    (hlo : t.start < cursor) (hhi : cursor ≤ t.stop) :
    d.argumentAt cursor = ⟨some q, ⟨(t.start + 1 : Nat), t.text.length - 1⟩⟩ := by
  obtain ⟨u, hcut, hscan⟩ := h.exists_scanBackward_eq_cons ht hlo hhi
  obtain ⟨hcursor, -⟩ := h.lineNumber_of_token ht hlo.le hhi
  obtain ⟨literal, hliteral, hlength⟩ := h.exists_literalAt?_eq ht hquote
  have hhead : (d.scanBackward cursor).head? = some u := by
    rw [hscan, List.head?_cons]
  have hmark : u.openQuote? = some q := by
    rw [hcut.openQuote?_eq hlo, hquote]
  have hstop := hcut.stop_eq hlo.le
  have hstart := hcut.start_eq
  rw [← hstart] at hliteral
  rw [argumentAt_of_literal hhead hmark hliteral, clamp_of_le hcursor, hlength]
  rw [Token.stop] at hstop
  have hbegin : (cursor : Int) - (u.text.length - 1 : Nat) = (t.start + 1 : Nat) := by omega
  rw [hbegin]

end LinesAround

/-- A string of the source begins with a quotation mark. -/
theorem exists_openQuote?_of_kind {start stop : Nat} (ht : t ∈ d.classify start stop)
    (hkind : t.kind = .string) : ∃ q, t.openQuote? = some q := by
  obtain ⟨regexp, before, c, rest, -, -, rfl⟩ := Lexer.exists_tokenAt_of_mem ht
  obtain ⟨q, rfl⟩ := Lexer.exists_quote_of_kind hkind
  refine ⟨q, ?_⟩
  rw [Token.openQuote?, Lexer.toList_text_tokenAt]
  exact Quote.ofChar?_eq_some_iff.mpr rfl

/-- A string literal of a line has one verdict and one argument for all cursors in it: the verdict is
the one that typing its quotation mark at its beginning would get, and the argument is the literal
without the mark. -/
theorem literal_has_one_answer {line start stop : Nat}
    (hline : d.lineExtent? line = some (start, stop)) (ht : t ∈ d.classify start stop)
    (hkind : t.kind = .string) :
    ∃ (q : Quote) (span : Span),
      t.openQuote? = some q ∧ span.start = t.start + 1 ∧ span.stop = t.stop ∧
      ∀ cursor : Int, t.start < cursor → cursor ≤ t.stop →
        d.opensModules cursor true true =
            d.typingOpensModules t.start (String.singleton q.char) ∧
          d.argumentAt cursor = ⟨some q, span⟩ := by
  obtain ⟨hexists, hextent⟩ := Option.ite_none_right_eq_some.mp hline
  cases hextent
  obtain ⟨earlier, text, later, hlines, rfl⟩ := exists_lines_eq hexists
  have haround := linesAround_lineStart hlines
  obtain ⟨q, hquote⟩ := exists_openQuote?_of_kind ht hkind
  have hpos : t.start < t.stop := Lexer.start_lt_stop_of_mem ht
  refine ⟨q, ⟨(t.start + 1 : Nat), t.text.length - 1⟩, hquote, rfl, ?_, ?_⟩
  · rw [Token.stop] at hpos
    rw [Span.stop, Token.stop]
    dsimp only
    omega
  · intro cursor hlo hhi
    obtain ⟨cursor, rfl⟩ := Int.eq_ofNat_of_zero_le (a := cursor) (by omega)
    have hlo' := Int.ofNat_lt.mp hlo
    have hhi' := Int.ofNat_le.mp hhi
    exact ⟨haround.opensModules_in_literal ht hquote hlo' hhi',
      haround.argumentAt_in_literal ht hquote hlo' hhi'⟩

/-- A cursor between a backslash and the mark that it takes along, on the second line. -/
theorem literal_has_one_answer_in_escape :
    let d := ofString "x\r\nrequire('a\\'b') + 1"
    let t : Token := ⟨.string, "'a\\'b'", 11⟩
    d.lineExtent? 1 = some (3, 22) ∧ t ∈ d.classify 3 22 ∧ t.kind = .string ∧
      (t.start : Int) < 14 ∧ (14 : Int) ≤ t.stop ∧
      ∃ (q : Quote) (span : Span),
        t.openQuote? = some q ∧ span.start = t.start + 1 ∧ span.stop = t.stop ∧
        ∀ cursor : Int, t.start < cursor → cursor ≤ t.stop →
          d.opensModules cursor true true =
              d.typingOpensModules t.start (String.singleton q.char) ∧
            d.argumentAt cursor = ⟨some q, span⟩ := by
  intro d t
  have hline : d.lineExtent? 1 = some (3, 22) := by
    simp only [d]
    cbv
  have ht : t ∈ d.classify 3 22 := by
    have htokens : d.classify 3 22 = [⟨.identifier, "require", 3⟩, ⟨.operator, "(", 10⟩,
        ⟨.string, "'a\\'b'", 11⟩, ⟨.operator, ")", 17⟩, ⟨.operator, "+", 19⟩,
        ⟨.number, "1", 21⟩] := by
      simp only [d]
      cbv
    rw [htokens]
    decide
  have hkind : t.kind = .string := rfl
  exact ⟨hline, ht, hkind, by decide, by decide, literal_has_one_answer hline ht hkind⟩

end Document

end ModuleHints

import ModuleHints.Proofs.Source.Walk
import ModuleHints.Proofs.Require.Argument

/-!
# The literal of an argument

A scan shows a half-typed string as far as the cursor; the literal that it belongs to is lexed once
more, to the end of its line. Both have the characters that the string would have if nothing cut it
short, as far as each goes. Where the string ends before the cursor the two are the same.
-/

namespace ModuleHints

open Unicode

/-- A token that begins with a quotation mark is the string from there on, as far as the range of
the token goes. -/
theorem Lexer.stop_of_quoted {source : List Char} {start stop : Nat} {t : Token} {q : Quote}
    (ht : t ∈ tokens source start stop) (hquote : t.openQuote? = some q) :
    source[t.start]? = some q.char ∧
      t.stop = min stop (t.start + 1 + stringTail q.char (source.drop (t.start + 1))) := by
  have hrange := mem_tokens ht
  have hpos := start_lt_stop_of_mem ht
  obtain ⟨regexp, before, c, rest, hsplit, -, rfl⟩ := exists_tokenAt_of_mem ht
  have hc : c = q.char := by
    rw [Token.openQuote?, toList_text_tokenAt] at hquote
    exact Quote.ofChar?_eq_some_iff.mp hquote
  have hdrop : (source.take stop).drop (start + before.length) = c :: rest := by
    rw [← List.drop_drop, hsplit, List.drop_left]
  have hrest : rest =
      (source.drop (start + before.length + 1)).take (stop - (start + before.length + 1)) := by
    have htail := congrArg List.tail hdrop
    rwa [List.tail_drop, List.tail_cons, List.drop_take, eq_comm] at htail
  have hstop := stop_tokenAt regexp (start + before.length) c rest
  rw [hc, lexeme_quote, ← hc, hrest, stringTail_take, ← hrest] at hstop
  rw [start_tokenAt] at hrange hpos ⊢
  constructor
  · have hfirst := congrArg List.head? hdrop
    rw [List.head?_drop, List.getElem?_take, if_pos (by omega), List.head?_cons, hc] at hfirst
    exact hfirst
  · rw [hstop, hc]
    omega

namespace Document

variable {d : Document} {cursor : Int} {typed : Token} {q : Quote}

/-- A line goes on behind a quotation mark of the document. -/
theorem exists_linesAround_quote {start : Nat} (h : d.chars[start]? = some q.char) :
    ∃ earlier before after later, d.LinesAround start earlier before (q.char :: after) later := by
  obtain ⟨hlt, hchar⟩ := List.getElem?_eq_some_iff.mp h
  obtain ⟨earlier, before, after, later, hlines⟩ := exists_linesAround (d := d) (Nat.le_of_lt hlt)
  obtain ⟨line, others, hrest⟩ :=
    List.exists_cons_of_ne_nil (splitLines_ne_nil (d.chars.drop (start + 1)))
  have hquote : '\n' ∉ [q.char] := by cases q <;> decide
  have hsplit := splitLines_append_left hquote hrest
  have hdrop : d.chars.drop start = [q.char] ++ d.chars.drop (start + 1) := by
    rw [List.drop_eq_getElem_cons hlt, hchar, List.singleton_append]
  rw [← hdrop, hlines.after_eq] at hsplit
  obtain ⟨rfl, rfl⟩ := List.cons.inj hsplit
  exact ⟨earlier, before, line, later, hlines⟩

/-- At a quotation mark there is a literal. It stands on one line, and it is the string from there on
as far as the line goes. -/
theorem exists_literalAt?_of_quote {start : Nat} (h : d.chars[start]? = some q.char) :
    ∃ literal, d.literalAt? start = some literal ∧ literal.start = start ∧
      '\n' ∉ d.slice start literal.stop ∧
      literal.stop = min (d.lineStop (d.lineNumber start))
        (start + 1 + Lexer.stringTail q.char (d.chars.drop (start + 1))) := by
  obtain ⟨earlier, before, after, later, hlines⟩ := exists_linesAround_quote h
  obtain ⟨rest, htext⟩ := hlines.exists_lineText_eq (by cases q <;> decide)
  have hliteral := hlines.literalAt?_eq
  rw [htext, List.drop_left, Lexer.tokensFrom_token (Lexer.isBlank_quote q),
    List.head?_cons] at hliteral
  set literal := Lexer.tokenAt (Lexer.regexpAllowed none) start q.char rest with hdef
  have hquote : literal.openQuote? = some q := by
    rw [Token.openQuote?, hdef, Lexer.toList_text_tokenAt]
    exact Quote.ofChar?_eq_some_iff.mpr rfl
  have hmem : literal ∈ Lexer.tokens d.chars start (d.lineStop (d.lineNumber start)) := by
    have hhead := List.mem_of_mem_head? (Option.mem_def.mpr hliteral)
    rw [hlines.lineNumber_eq]
    rwa [classify, clamp_of_le hlines.le, hlines.lineNumber_eq, clamp_of_le hlines.lineStop_le]
      at hhead
  have hchars : literal.text.toList = d.slice start literal.stop := text_of_mem_tokens hmem
  refine ⟨literal, hliteral, rfl, ?_, (Lexer.stop_of_quoted hmem hquote).2⟩
  rw [← hchars, hdef, Lexer.toList_text_tokenAt]
  intro hfeed
  have hline := hlines.lineText_prefix
  apply hlines.newline_not_mem
  rw [htext] at hline
  apply hline.subset
  apply List.mem_append_right
  rcases List.mem_cons.mp hfeed with hfeed | hfeed
  · rw [hfeed]
    exact List.mem_cons_self ..
  · exact List.mem_cons_of_mem _ (List.mem_of_mem_take hfeed)

/-- A literal to which a token before a cursor belongs. -/
structure HasLiteral (d : Document) (cursor : Int) (typed literal : Token) : Prop where
  /-- The literal is lexed where the token begins. -/
  literalAt?_eq : d.literalAt? typed.start = some literal
  /-- It begins there. -/
  start_eq : literal.start = typed.start
  /-- It is not empty. -/
  start_lt_stop : literal.start < literal.stop
  /-- It stands on one line. -/
  newline_not_mem : '\n' ∉ d.slice typed.start literal.stop
  /-- It ends with the token, where that ends before the cursor. -/
  stop_eq_of_lt : typed.stop < d.clamp cursor → literal.stop = typed.stop

/-- A quoted token that a scan sees belongs to a literal. -/
theorem exists_hasLiteral (ht : typed ∈ d.scanBackward cursor) (hquote : typed.openQuote? = some q) :
    ∃ literal, d.HasLiteral cursor typed literal := by
  have hscanned := mem_scanBackward ht
  rw [classifyLine, classify, classify, clamp_clamp] at hscanned
  have hchar : d.chars[typed.start]? = some q.char := by
    rcases hscanned with ⟨-, hmem⟩ | ⟨-, hmem⟩ <;> exact (Lexer.stop_of_quoted hmem hquote).1
  obtain ⟨literal, hliteral, hstart, hfeed, hstop⟩ := exists_literalAt?_of_quote hchar
  have hpos : literal.start < literal.stop :=
    Lexer.start_lt_stop_of_mem (List.mem_of_mem_head? hliteral)
  refine ⟨literal, hliteral, hstart, hpos, hfeed, fun hlt => ?_⟩
  rcases hscanned with ⟨hline, hmem⟩ | ⟨-, hmem⟩
  · obtain ⟨earlier, before, after, later, hlines⟩ := exists_linesAround (d.clamp_le cursor)
    have hle := hlines.le_lineStop_succ
    have hnumber := hlines.lineNumber_eq
    have htyped := (Lexer.stop_of_quoted hmem hquote).2
    rw [lineNumber_clamp, ← hline] at hnumber
    rw [← hnumber] at hle
    omega
  · obtain ⟨earlier, before, after, later, hlines⟩ := exists_linesAround_quote hchar
    have htyped := (Lexer.stop_of_quoted hmem hquote).2
    rw [hlines.lineNumber_eq, clamp_of_le hlines.lineStop_le] at htyped
    rw [hstop, htyped, hlines.lineNumber_eq]

/-- The argument at a quoted token takes its place from the cursor and its length from the
literal. -/
theorem argumentAt_of_literal {literal : Token}
    (hhead : (d.scanBackward cursor).head? = some typed) (hquote : typed.openQuote? = some q)
    (hliteral : d.literalAt? typed.start = some literal) :
    d.argumentAt cursor =
      ⟨some q, ⟨d.clamp cursor - (typed.text.length - 1 : Nat), literal.text.length - 1⟩⟩ := by
  rw [argumentAt, hhead]
  simp only [hquote, hliteral, Option.getD_some]

/-- How a replaced span lies to the token before the cursor. Where that is a string which ends at the
cursor, the span is the argument. A string that ends earlier gives the span its length, but the span
ends at the cursor all the same, and so begins behind the argument. -/
structure SpansArgument (d : Document) (cursor : Int) (span : Span) : Prop where
  /-- Without a string there is nothing to replace. -/
  bare : (∀ typed ∈ (d.scanBackward cursor).head?, typed.openQuote? = none) →
    span = .empty (d.clamp cursor)
  /-- At the end of a string the span is the literal without its opening mark. -/
  within : ∀ typed ∈ (d.scanBackward cursor).head?, typed.openQuote?.isSome →
    typed.stop = d.clamp cursor →
    ∃ literal, d.literalAt? typed.start = some literal ∧ span.start = typed.start + 1 ∧
      span.stop = literal.stop
  /-- Behind the end of a string the span is what stands before the cursor, as long as the string
  without its opening mark. -/
  behind : ∀ typed ∈ (d.scanBackward cursor).head?, typed.openQuote?.isSome →
    typed.stop < d.clamp cursor →
    span.length = typed.text.length - 1 ∧ span.stop = d.clamp cursor
  /-- The span has no line feed where the string is on the cursor's line. -/
  newline_not_mem : (∀ typed ∈ (d.scanBackward cursor).head?, typed.openQuote?.isSome →
    d.lineNumber typed.start = d.lineNumber cursor) → '\n' ∉ d.slice span.start span.stop

/-- The token nearest to the cursor ends before it or at it. -/
theorem stop_le_of_head? (h : (d.scanBackward cursor).head? = some typed) :
    typed.start < typed.stop ∧ typed.stop ≤ d.clamp cursor := by
  rw [← scanBackward_clamp] at h
  exact stop_le_of_mem_scanBackward (d.clamp_le cursor) (List.mem_of_mem_head? h)

/-- The places behind one on the cursor's line are there, too, as far as the cursor. -/
theorem newline_not_mem_of_between {a b c : Int} (hab : a ≤ b) (hbc : b ≤ c)
    (h : d.lineNumber a = d.lineNumber c) : '\n' ∉ d.slice b c := by
  have hleft := d.lineNumber_mono hab
  have hright := d.lineNumber_mono hbc
  exact (d.lineNumber_eq_iff hbc).mp (by omega)

namespace HasLiteral

variable {literal : Token}

/-- At the end of a string the span is the literal without its opening mark. -/
theorem span_within (h : d.HasLiteral cursor typed literal)
    (hhead : (d.scanBackward cursor).head? = some typed) (hquote : typed.openQuote? = some q)
    (hends : typed.stop = d.clamp cursor) :
    (d.argumentAt cursor).span.start = typed.start + 1 ∧
      (d.argumentAt cursor).span.stop = literal.stop := by
  have hpos := (stop_le_of_head? hhead).1
  have hlonger := h.start_lt_stop
  have hstart := h.start_eq
  have htyped : typed.stop = typed.start + typed.text.length := rfl
  have hliteral : literal.stop = literal.start + literal.text.length := rfl
  rw [argumentAt_of_literal hhead hquote h.literalAt?_eq, Span.stop]
  dsimp only
  omega

/-- Behind the end of a string the span ends at the cursor. -/
theorem span_behind (h : d.HasLiteral cursor typed literal)
    (hhead : (d.scanBackward cursor).head? = some typed) (hquote : typed.openQuote? = some q)
    (hlt : typed.stop < d.clamp cursor) :
    (d.argumentAt cursor).span.length = typed.text.length - 1 ∧
      (d.argumentAt cursor).span.stop = d.clamp cursor := by
  have hpos := (stop_le_of_head? hhead).1
  have hstart := h.start_eq
  have hstop := h.stop_eq_of_lt hlt
  have htyped : typed.stop = typed.start + typed.text.length := rfl
  have hliteral : literal.stop = literal.start + literal.text.length := rfl
  rw [argumentAt_of_literal hhead hquote h.literalAt?_eq, Span.stop]
  dsimp only
  omega

/-- The span of a string on the cursor's line has no line feed. -/
theorem newline_not_mem_span (h : d.HasLiteral cursor typed literal)
    (hhead : (d.scanBackward cursor).head? = some typed) (hquote : typed.openQuote? = some q)
    (hline : d.lineNumber typed.start = d.lineNumber cursor) :
    '\n' ∉ d.slice (d.argumentAt cursor).span.start (d.argumentAt cursor).span.stop := by
  have hle := (stop_le_of_head? hhead).2
  have hpos := (stop_le_of_head? hhead).1
  have hstart := h.start_eq
  have hlonger := h.start_lt_stop
  rcases Nat.lt_or_ge typed.stop (d.clamp cursor) with hlt | hge
  · obtain ⟨hlength, hstop⟩ := h.span_behind hhead hquote hlt
    have hbegins : (typed.start : Int) ≤ (d.argumentAt cursor).span.start := by
      rw [Span.stop] at hstop
      rw [Token.stop] at hlt hpos
      omega
    have hends : (d.argumentAt cursor).span.start ≤ (d.argumentAt cursor).span.stop :=
      Int.le_add_of_nonneg_right (Int.natCast_nonneg _)
    apply newline_not_mem_of_between hbegins hends
    rw [hstop, hline, lineNumber_clamp]
  · obtain ⟨hbegins, hends⟩ := h.span_within hhead hquote (by omega)
    have hsame := (d.lineNumber_eq_iff (by omega)).mpr h.newline_not_mem
    apply newline_not_mem_of_between (a := typed.start) (by omega) (by omega)
    rw [hends, hsame]

end HasLiteral

/-- Without a string there is nothing to replace. -/
theorem span_of_bare (h : ∀ typed ∈ (d.scanBackward cursor).head?, typed.openQuote? = none) :
    (d.argumentAt cursor).span = .empty (d.clamp cursor) := by
  rw [← scanBackward_clamp] at h
  rw [← argumentAt_clamp, argumentAt_of_bare h, clamp_clamp]

/-- The span of an argument is what stands behind its quotation mark, if a token that begins with
one ends at the cursor. -/
theorem spansArgument_argumentAt (d : Document) (cursor : Int) :
    d.SpansArgument cursor (d.argumentAt cursor).span := by
  have hliteral : ∀ typed ∈ (d.scanBackward cursor).head?, typed.openQuote?.isSome →
      ∃ q literal, typed.openQuote? = some q ∧ d.HasLiteral cursor typed literal := by
    intro typed hhead hquote
    obtain ⟨q, hq⟩ := Option.isSome_iff_exists.mp hquote
    obtain ⟨literal, hliteral⟩ := exists_hasLiteral (List.mem_of_mem_head? hhead) hq
    exact ⟨q, literal, hq, hliteral⟩
  refine ⟨span_of_bare, fun typed hhead hquote hends => ?_, fun typed hhead hquote hlt => ?_,
    fun hline => ?_⟩
  · obtain ⟨q, literal, hq, hliteral⟩ := hliteral typed hhead hquote
    exact ⟨literal, hliteral.literalAt?_eq, hliteral.span_within hhead hq hends⟩
  · obtain ⟨q, literal, hq, hliteral⟩ := hliteral typed hhead hquote
    exact hliteral.span_behind hhead hq hlt
  · by_cases hstring : ∃ typed ∈ (d.scanBackward cursor).head?, typed.openQuote?.isSome
    · obtain ⟨typed, hhead, hquote⟩ := hstring
      obtain ⟨q, literal, hq, hliteral⟩ := hliteral typed hhead hquote
      exact hliteral.newline_not_mem_span hhead hq (hline typed hhead hquote)
    · have hbare : ∀ typed ∈ (d.scanBackward cursor).head?, typed.openQuote? = none := by
        intro typed hhead
        by_contra hquote
        exact hstring ⟨typed, hhead, Option.isSome_iff_ne_none.mpr hquote⟩
      rw [span_of_bare hbare]
      simp [slice, Span.stop, Span.empty]

end Document

end ModuleHints

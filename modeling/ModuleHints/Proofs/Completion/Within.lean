import ModuleHints.Proofs.Catalog.Remembered
import ModuleHints.Proofs.Completion.Touching
import ModuleHints.Proofs.Require.Literal

/-!
# Where a completion replaces

The span of an argument takes its start from the cursor and its length from a literal that is lexed
anew, so that it is not plain that the two fit together. They do: the length is never below zero, and
the span begins in the document no later than the cursor and ends in it no earlier. Only a cursor
inside a line break may lie behind the end, since the literal ends before the line break and the part
of it before the cursor has the carriage return.
-/

namespace ModuleHints

/-- What keeps a span from being computed. -/
inductive SpanFault where
  /-- Two integers are no span. -/
  | span (e : SpanError)
  /-- A line has no extent. -/
  | line (e : Document.LineError)
  deriving DecidableEq, Repr

/-- How a span lies around a cursor of a document. -/
structure Span.FitsCursor (s : Span) (d : Document) (cursor : Nat) : Prop where
  /-- The span begins in the document. -/
  nonneg : 0 ≤ s.start
  /-- It begins before the cursor or at it. -/
  start_le : s.start ≤ cursor
  /-- It ends no earlier than it begins. -/
  start_le_stop : s.start ≤ s.stop
  /-- It ends in the document. -/
  stop_le : s.stop ≤ d.length
  /-- It ends behind the cursor or at it, unless the cursor parts a line break. -/
  le_stop : ¬d.InLineBreak cursor → cursor ≤ s.stop

theorem Span.fitsCursor_empty {d : Document} {place : Nat} (h : place ≤ d.length) :
    (Span.empty place).FitsCursor d place := by
  refine ⟨?_, ?_, ?_, ?_, fun _ => ?_⟩ <;> simp [Span.stop, Span.empty, h]

namespace Document

/-- The span with the given start and length, which may be below zero. -/
def spanOf (start length : Int) : Except SpanFault Span :=
  (Span.ofInts start length).mapError .span

/-- The extent of a line, which may not be there. -/
def lookedUp (d : Document) (line : Nat) : Except SpanFault (Nat × Nat) :=
  (d.extentOf line).mapError .line

/-- The span that a completion at a cursor replaces, or what keeps it from being computed: lengths are
subtracted as integers, and lines are looked up. -/
def checkedSpan (d : Document) (cursor : Int) : Except SpanFault Span := do
  let offset := d.clamp cursor
  if d.asksForModules cursor then
    match (d.scanBackward offset).head?.filter (·.openQuote?.isSome) with
    | none => spanOf offset 0
    | some typed =>
      let (_, stop) ← d.lookedUp (d.lineNumber typed.start)
      let whole := (d.classify typed.start stop).head?.getD typed
      spanOf (offset - (typed.text.length - 1)) (whole.text.length - 1)
  else
    let (start, stop) ← d.lookedUp (d.lineNumber offset)
    let boundary := if offset < stop then offset + 1 else offset
    match wordAmong offset ((d.classify start stop).filter (·.start < boundary)).reverse with
    | none => spanOf offset 0
    | some word => spanOf word.start word.length

variable {d : Document} {cursor : Int} {typed literal : Token} {q : Quote}

theorem stop_le_of_literalAt? {start : Nat} (h : d.literalAt? start = some literal) :
    literal.stop ≤ d.length :=
  Lexer.stop_le_length_of_mem_tokens (List.mem_of_mem_head? h)

/-- A literal reaches as far as the part of it before the cursor, unless the cursor parts a line
break. -/
theorem le_stop_of_literalAt? (ht : typed ∈ d.scanBackward cursor)
    (hquote : typed.openQuote? = some q) (hends : typed.stop = d.clamp cursor)
    (hliteral : d.literalAt? typed.start = some literal)
    (hbreak : ¬d.InLineBreak (d.clamp cursor)) : d.clamp cursor ≤ literal.stop := by
  have hplace := d.clamp_le cursor
  have hline : d.lineNumber typed.start = d.lineNumber cursor := by
    rw [← scanBackward_clamp] at ht
    rw [← lineNumber_stop_of_mem_scanBackward hplace ht, hends, lineNumber_clamp]
  rcases mem_scanBackward ht with ⟨-, hmem⟩ | ⟨hearlier, -⟩
  · obtain ⟨hmark, htyped⟩ := Lexer.stop_of_quoted hmem hquote
    obtain ⟨whole, hwhole, -, -, hstop⟩ := exists_literalAt?_of_quote hmark
    cases hwhole.symm.trans hliteral
    obtain ⟨earlier, before, after, later, hlines⟩ := exists_linesAround hplace
    have hle := hlines.le_lineStop hbreak
    rw [← hlines.lineNumber_eq, lineNumber_clamp, ← hline] at hle
    rw [clamp_clamp] at htyped
    omega
  · exact absurd hline hearlier.ne

/-- The span of an argument fits the cursor. -/
theorem fitsCursor_argumentAt (d : Document) (cursor : Int) :
    (d.argumentAt cursor).span.FitsCursor d (d.clamp cursor) := by
  have hspans := d.spansArgument_argumentAt cursor
  have hplace := d.clamp_le cursor
  by_cases hbare : ∀ typed ∈ (d.scanBackward cursor).head?, typed.openQuote? = none
  · rw [hspans.bare hbare]
    exact Span.fitsCursor_empty hplace
  · push Not at hbare
    obtain ⟨typed, hhead, hsome⟩ := hbare
    obtain ⟨q, hquote⟩ := Option.ne_none_iff_exists'.mp hsome
    obtain ⟨hpos, hstop⟩ := stop_le_of_head? hhead
    have hnonneg : (d.argumentAt cursor).span.start ≤ (d.argumentAt cursor).span.stop :=
      Int.le_add_of_nonneg_right (Int.natCast_nonneg _)
    have hisSome : typed.openQuote?.isSome := by rw [hquote]; rfl
    rcases hstop.lt_or_eq with hlt | hends
    · obtain ⟨hlength, hspan⟩ := hspans.behind typed hhead hisSome hlt
      have htyped : typed.stop = typed.start + typed.text.length := rfl
      have hbegin := hspan
      rw [Span.stop] at hbegin
      exact ⟨by omega, by omega, hnonneg, by omega, fun _ => by omega⟩
    · obtain ⟨literal, hliteral, hbegin, hspan⟩ := hspans.within typed hhead hisSome hends
      have hinside := stop_le_of_literalAt? hliteral
      refine ⟨by omega, by omega, hnonneg, by omega, fun hbreak => ?_⟩
      have hreach := le_stop_of_literalAt? (List.mem_of_mem_head? hhead) hquote hends hliteral hbreak
      omega

/-- The word at a place is the one that touches it, or else it is empty. -/
theorem wordSpan_eq_wordsAt {place : Nat} (h : place ≤ d.length) :
    d.wordSpan place = ((d.wordsAt place).head?.map .ofToken).getD (.empty place) := by
  obtain ⟨earlier, before, after, later, hlines⟩ := exists_linesAround h
  rw [wordSpan, hlines.wordSpan?_eq, Lexer.wordAmong_tokensFrom_eq, wordsAt, hlines.lineNumber_eq,
    hlines.classifyLine_eq, clamp_of_le h]

/-- The span of a word fits the cursor. -/
theorem fitsCursor_wordSpan {place : Nat} (h : place ≤ d.length) :
    (d.wordSpan place).FitsCursor d place := by
  rw [wordSpan_eq_wordsAt h]
  cases hword : (d.wordsAt place).head? with
  | none => exact Span.fitsCursor_empty h
  | some word =>
    obtain ⟨hmem, hat⟩ := List.mem_filter.mp (List.mem_of_mem_head? hword)
    obtain ⟨-, hstart, hstop⟩ := Token.isWordAt_iff.mp hat
    have hinside : word.stop ≤ d.length := Lexer.stop_le_length_of_mem_tokens hmem
    have hend := Span.stop_ofToken word
    have hbegin : (Span.ofToken word).start = word.start := rfl
    rw [Option.map_some, Option.getD_some]
    exact ⟨by omega, by omega, by omega, by omega, fun _ => by omega⟩

/-- Two integers are a span where its length is the second. -/
theorem spanOf_eq_ok {start length : Int} {s : Span} (hstart : s.start = start)
    (hlength : s.length = length) : spanOf start length = .ok s := by
  rw [spanOf, Span.ofInts_eq_ok_iff.mpr ⟨hstart, hlength⟩]
  rfl

/-- A line up to that of some place is found. -/
theorem lookedUp_eq_ok {line : Nat} {place : Int} (h : line ≤ d.lineNumber place) :
    d.lookedUp line = .ok (d.lineStart line, d.lineStop line) := by
  rw [lookedUp, d.extentOf_eq_ok h]
  rfl

/-- Where modules are asked for, the span can be computed and is that of the argument. -/
theorem checkedSpan_of_modules (h : d.asksForModules cursor = true) :
    d.checkedSpan cursor = .ok (d.argumentAt cursor).span := by
  rw [checkedSpan]
  simp only [h, if_true]
  rw [scanBackward_clamp]
  cases hhead : (d.scanBackward cursor).head? with
  | none =>
    rw [span_of_bare (by simp [hhead])]
    exact spanOf_eq_ok rfl rfl
  | some typed =>
    cases hquote : typed.openQuote? with
    | none =>
      simp only [Option.filter_some, hquote]
      rw [span_of_bare (by simp [hhead, hquote])]
      exact spanOf_eq_ok rfl rfl
    | some q =>
      obtain ⟨literal, hliteral⟩ := exists_hasLiteral (List.mem_of_mem_head? hhead) hquote
      have hfound := hliteral.literalAt?_eq
      rw [argumentAt_of_literal hhead hquote hfound]
      simp only [Option.filter_some, hquote, Option.isSome_some, if_true]
      rw [lookedUp_eq_ok le_rfl]
      change spanOf _ ((((d.literalAt? typed.start).getD typed).text.length : Int) - 1) = _
      rw [hfound, Option.getD_some]
      have hlong := hliteral.start_lt_stop
      have htyped := (stop_le_of_head? hhead).1
      rw [Token.stop] at hlong htyped
      exact spanOf_eq_ok (by dsimp only; omega) (by dsimp only; omega)

/-- Elsewhere the span can be computed and is that of the word. -/
theorem checkedSpan_of_words (h : d.asksForModules cursor = false) :
    d.checkedSpan cursor = .ok (d.wordSpan (d.clamp cursor)) := by
  have hplace : (0 : Int) ≤ d.clamp cursor ∧ (d.clamp cursor : Int) ≤ d.length :=
    ⟨Int.natCast_nonneg _, Int.ofNat_le.mpr (d.clamp_le cursor)⟩
  rw [checkedSpan, wordSpan, wordSpan?, if_pos hplace]
  simp only [h, Int.toNat_natCast, clamp_clamp]
  rw [lookedUp_eq_ok le_rfl]
  dsimp only [bind, Except.bind]
  cases wordAmong (d.clamp cursor) _ with
  | none => exact spanOf_eq_ok rfl rfl
  | some word => exact spanOf_eq_ok rfl rfl

/-- Completing without a project always gives an answer. All lines of the document up to the cursor's
are there, the span that is replaced can be computed, and it fits the cursor. -/
theorem complete_span_fitsCursor (settings : Settings) (disk : Disk) (here : Path) (d : Document)
    (cursor : Int) (path : Option String) (m : Memory) :
    let answer := (Catalog.complete settings disk here d cursor none path m).1
    answer.failure? = none ∧
      (∀ line ≤ d.lineNumber cursor, d.extentOf line = .ok (d.lineStart line, d.lineStop line)) ∧
      d.checkedSpan cursor = .ok answer.set.span ∧
      answer.set.span.FitsCursor d (d.clamp cursor) := by
  intro answer
  have hfailure : answer.failure? = none := by
    rw [Catalog.failure?_complete]
    split <;> rfl
  refine ⟨hfailure, fun line hline => d.extentOf_eq_ok hline, ?_⟩
  have hset : answer.set =
      if d.asksForModules cursor then d.moduleSet settings cursor []
      else d.complete settings cursor [] := by
    rw [Catalog.set_complete]
    rfl
  cases hasks : d.asksForModules cursor with
  | true =>
    rw [hasks, if_pos rfl] at hset
    have hspan : answer.set.span = (d.argumentAt cursor).span := by
      rw [hset, moduleSet, argumentAt_clamp]
      rfl
    rw [hspan]
    exact ⟨checkedSpan_of_modules hasks, d.fitsCursor_argumentAt cursor⟩
  | false =>
    rw [hasks, if_neg (by decide), complete, if_neg (by simp [hasks])] at hset
    have hspan : answer.set.span = d.wordSpan (d.clamp cursor) := by
      rw [hset]
      rfl
    rw [hspan]
    exact ⟨checkedSpan_of_words hasks, fitsCursor_wordSpan (d.clamp_le cursor)⟩

/-- Between the two characters of a line break the span ends before the cursor. -/
example :
    let d := ofString "require('abc\r\n"
    d.InLineBreak 13 ∧ d.checkedSpan 13 = .ok ⟨9, 3⟩ ∧ d.checkedSpan 14 = .ok ⟨11, 3⟩ := by
  cbv
  exact ⟨rfl, rfl⟩

end Document

end ModuleHints

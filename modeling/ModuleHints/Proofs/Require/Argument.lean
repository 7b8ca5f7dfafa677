import ModuleHints.Proofs.Source.Classify
import ModuleHints.Proofs.Require.Call

/-!
# Where an argument stands

The argument of a call begins at its quotation mark, or at the cursor where none has been typed. In
both cases a call opens there, a quotation mark begins a token there, and the tokens of the line
before it are those that the scan from there sees. These facts are all that an edit of the argument
needs to know of the text before it.
-/

namespace ModuleHints

open Unicode

/-- Offset of the argument, its quotation mark included. -/
def Argument.start (a : Argument) : Nat :=
  match a.quote with
  | none => a.span.start.toNat
  | some _ => a.span.start.toNat - 1

namespace Document

/-- A place at which an argument of a call begins, with the lines around it. -/
structure OpensArgument (d : Document) (start : Nat) (q : Quote) (earlier : List (List Char))
    (before after : List Char) (later : List (List Char)) : Prop where
  /-- The lines around the place. -/
  lines : d.LinesAround start earlier before after later
  /-- A call opens at the place. -/
  opens : d.opensModules start true false = true
  /-- A quotation mark at the place belongs to no token before it. -/
  not_crosses : ∀ t ∈ Lexer.tokensFrom none (lengthOfLines earlier) (before ++ [q.char]),
    ¬t.Crosses (lengthOfLines earlier + before.length)
  /-- The tokens of the line before the place are those that the scan sees. -/
  classify_eq : (d.classifyLine earlier.length).filter (·.start < start) =
    Lexer.tokensFrom none (lengthOfLines earlier) before

variable {d : Document} {place : Nat}

/-- An argument without a quotation mark begins at the cursor. -/
theorem opensArgument_of_bare (h : place ≤ d.length)
    (hopens : d.opensModules place true true = true)
    (hbare : ∀ t ∈ (d.scanBackward place).head?, t.openQuote? = none) (q : Quote) :
    ∃ earlier before after later, d.OpensArgument place q earlier before after later := by
  obtain ⟨earlier, before, after, later, hlines⟩ := exists_linesAround h
  have hplace := hlines.place_eq
  have hsame := beforeRequire?_of_bare hbare
  have hcall : d.opensModules place true false = true := by
    rw [opensModules_natCast h] at hopens ⊢
    rwa [← hsame]
  have hlast :
      ∀ t ∈ (Lexer.tokensFrom none (lengthOfLines earlier) before).getLast?, t.text = "(" := by
    intro t ht
    rw [opensModules_natCast h] at hcall
    obtain ⟨_, hearlier, -⟩ := (Option.any_eq_true _ _).mp hcall
    apply text_head_of_beforeRequire? hearlier
    rw [hlines.scanBackward_eq, List.head?_append, List.head?_reverse, Option.mem_def.mp ht]
    rfl
  refine ⟨earlier, before, after, later, hlines, hcall,
    Lexer.not_crosses_of_parenthesis hlast _, ?_⟩
  · rw [hlines.classifyLine_eq, hplace]
    rcases hlines.lineText_cases with ⟨rest, hrest⟩ | hreturn
    · rw [hrest, Lexer.tokensFrom_append (Lexer.not_crosses_of_parenthesis hlast rest),
        Lexer.filter_append]
    · rw [hreturn] at hlast ⊢
      rw [Lexer.tokensFrom_concat_blank (by decide) hlast]
      apply Lexer.filter_start_lt_eq_self
      rw [List.length_append]
      omega

/-- The tokens of the cursor's line, where the scan begins with a token that ends at the cursor. -/
theorem LinesAround.exists_last_token {earlier later : List (List Char)} {before after : List Char}
    (h : d.LinesAround place earlier before after later) {t : Token} {rest : List Token}
    (hscan : d.scanBackward place = t :: rest) (hstop : t.stop = place) :
    ∃ tokens, Lexer.tokensFrom none (lengthOfLines earlier) before = tokens ++ [t] ∧
      rest = tokens.reverse ++ (endedTokens 0 earlier).reverse := by
  rw [h.scanBackward_eq] at hscan
  rcases List.eq_nil_or_concat' (Lexer.tokensFrom none (lengthOfLines earlier) before) with
    hnone | ⟨tokens, u, hlast⟩
  · rw [hnone, List.reverse_nil, List.nil_append] at hscan
    have hmem : t ∈ (endedTokens 0 earlier).reverse := by
      rw [hscan]
      exact List.mem_cons_self ..
    have hearlier := stop_lt_of_mem_endedTokens (List.mem_reverse.mp hmem)
    have hplace := h.place_eq
    omega
  · rw [hlast, List.reverse_append, List.reverse_singleton, List.append_assoc,
      List.singleton_append] at hscan
    obtain ⟨rfl, rfl⟩ := List.cons.inj hscan
    exact ⟨tokens, hlast, rfl⟩

/-- An argument with a quotation mark begins with that. -/
theorem opensArgument_of_quoted (h : place ≤ d.length)
    (hopens : d.opensModules place true true = true)
    {t : Token} {rest : List Token} {q : Quote} (hscan : d.scanBackward place = t :: rest)
    (hquote : t.openQuote? = some q) (hstop : t.stop = place) :
    ∃ earlier before after later,
      d.OpensArgument t.start q earlier before (q.char :: after) later := by
  obtain ⟨earlier, line, after, later, hlines⟩ := exists_linesAround h
  obtain ⟨tokens, htokens, hrest⟩ := hlines.exists_last_token hscan hstop
  have hmem : t ∈ Lexer.tokensFrom none (lengthOfLines earlier) line := by
    rw [htokens]
    simp
  have hstart := Lexer.le_start_of_mem hmem
  obtain ⟨before, more, hline, hbefore⟩ : ∃ before more, line = before ++ q.char :: more ∧
      t.start = lengthOfLines earlier + before.length := by
    obtain ⟨regexp, before, c, more, hline, -, ht⟩ := Lexer.exists_tokenAt_of_mem hmem
    have hc : c = q.char := by
      rw [Token.openQuote?, ht, Lexer.toList_text_tokenAt] at hquote
      exact Quote.ofChar?_eq_some_iff.mp hquote
    exact ⟨before, more, hc ▸ hline, by rw [ht, Lexer.start_tokenAt]⟩
  rw [hline] at hlines htokens
  have hleft := hlines.left
  rw [← hbefore] at hleft
  have htokensBefore : Lexer.tokensFrom none (lengthOfLines earlier) before = tokens := by
    have htake := Lexer.tokensFrom_take_start htokens
    rwa [hbefore, Nat.add_sub_cancel_left, List.take_left] at htake
  have hnot : ∀ u ∈ Lexer.tokensFrom none (lengthOfLines earlier) (before ++ [q.char]),
      ¬u.Crosses (lengthOfLines earlier + before.length) := by
    have hpos := Lexer.start_lt_stop_of_mem hmem
    obtain ⟨u, hcut, hu⟩ := Lexer.tokensFrom_take_of_mem htokens (n := before.length + 1)
      (by omega) (by omega)
    have htake : (before ++ q.char :: more).take (before.length + 1) = before ++ [q.char] := by
      rw [List.take_length_add_append, List.take_succ_cons, List.take_zero]
    rw [htake] at hu
    have hstarts := Lexer.not_crosses_start hu
    rwa [hcut.start_eq, hbefore] at hstarts
  refine ⟨earlier, before, more ++ after, later, hleft, ?_, hnot, ?_⟩
  · have hline : d.lineNumber place = d.lineNumber t.start := by
      rw [hlines.lineNumber_eq, hleft.lineNumber_eq]
    have hsame : beforeRequire? (d.scanBackward place) true true =
        beforeRequire? (d.scanBackward t.start) true false := by
      rw [hscan, beforeRequire?_cons_quoted (by rw [hquote]; rfl), hrest, hleft.scanBackward_eq,
        htokensBefore]
    rw [← opensModules_congr hleft.le h rfl hline hsame]
    exact hopens
  · obtain ⟨text, htext⟩ := hleft.exists_lineText_eq (by cases q <;> decide)
    rw [hleft.classifyLine_eq, htext, hbefore,
      Lexer.tokensFrom_append (Lexer.not_crosses_of_first hnot text), Lexer.filter_append]

theorem argumentAt_clamp (d : Document) (offset : Int) :
    d.argumentAt (d.clamp offset) = d.argumentAt offset := by
  rw [argumentAt, argumentAt, scanBackward_clamp, clamp_clamp]

/-- The quotation mark of an argument is read off the token before the cursor. -/
theorem quote_argumentAt (d : Document) (cursor : Int) :
    (d.argumentAt cursor).quote = (d.scanBackward cursor).head?.bind Token.openQuote? := by
  rw [argumentAt]
  cases (d.scanBackward cursor).head? with
  | none => rfl
  | some typed =>
    dsimp only [Option.bind_some]
    cases typed.openQuote? <;> rfl

/-- Without a quotation mark the argument is empty. -/
theorem argumentAt_of_bare (hbare : ∀ t ∈ (d.scanBackward place).head?, t.openQuote? = none) :
    d.argumentAt place = ⟨none, Span.empty (d.clamp place)⟩ := by
  rw [argumentAt]
  cases hhead : (d.scanBackward place).head? with
  | none => rfl
  | some t =>
    have hnone : t.openQuote? = none := hbare t hhead
    simp only [hnone]

/-- With a quotation mark the argument begins behind that. -/
theorem argumentAt_of_quoted (h : place ≤ d.length) {t : Token} {rest : List Token} {q : Quote}
    (hscan : d.scanBackward place = t :: rest) (hquote : t.openQuote? = some q)
    (hstop : t.stop = place) :
    ∃ length, d.argumentAt place = ⟨some q, ⟨(t.start + 1 : Nat), length⟩⟩ := by
  have hpos : t.start < t.stop := (stop_le_of_mem_scanBackward h (hscan ▸ List.mem_cons_self ..)).1
  rw [argumentAt, hscan, List.head?_cons]
  simp only [hquote, clamp_of_le h]
  rw [Token.stop] at hstop hpos
  have hstart : (place : Int) - (t.text.length - 1 : Nat) = (t.start + 1 : Nat) := by omega
  exact ⟨_, by rw [hstart]⟩

end Document

end ModuleHints

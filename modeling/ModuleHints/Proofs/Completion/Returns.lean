import ModuleHints.Proofs.Completion.WordBefore
import ModuleHints.Proofs.Require.Argument
import ModuleHints.Proofs.Source.Returns

/-!
# Line endings do not matter

A document whose lines end with carriage returns and line feeds is completed like the one whose
lines end with line feeds alone. At a cursor, the tokens before it, whether module completions apply
or would apply, the quotation mark of the argument and the word are the same; only where they stand
tells the two documents apart.
-/

namespace ModuleHints

/-- The span moved to the right. -/
def Span.shift (s : Span) (n : Nat) : Span := { s with start := s.start + n }

@[simp] theorem Token.canComplete_shift (t : Token) (n : Nat) :
    (t.shift n).canComplete = t.canComplete := rfl

@[simp] theorem Span.ofToken_shift (t : Token) (n : Nat) :
    ofToken (t.shift n) = (ofToken t).shift n := rfl

@[simp] theorem Token.wordSpan?_shift (t : Token) (n : Nat) :
    (t.shift n).wordSpan? = t.wordSpan?.map (·.shift n) := by
  rw [wordSpan?, wordSpan?, canComplete_shift, Span.ofToken_shift]
  split <;> rfl

/-- The word at a position among tokens moves with them. -/
theorem wordAmong_shift (position n : Nat) (tokens : List Token) :
    wordAmong (position + n) (tokens.map (·.shift n)) =
      (wordAmong position tokens).map (·.shift n) := by
  have hstart : ∀ t : Token, (t.shift n).start = t.start + n := fun _ => rfl
  cases tokens with
  | nil => rfl
  | cons last earlier =>
    rw [wordAmong.eq_def, wordAmong.eq_def position]
    cases earlier with
    | nil => simp [hstart, apply_ite (Option.map _)]
    | cons t rest => simp [hstart, apply_ite (Option.map _)]

namespace Document

variable {d : Document} {place : Nat}

/-- The word at a place is the same with returns as without them. -/
theorem wordSpan?_withReturns (hreturn : '\r' ∉ d.chars) (h : place ≤ d.length) :
    d.withReturns.wordSpan? (d.placeWithReturns place) =
      (d.wordSpan? place).map (·.shift (d.lineNumber place)) := by
  obtain ⟨earlier, before, after, later, hlines⟩ := exists_linesAround h
  obtain ⟨after', later', hlines', -⟩ := hlines.withReturns
  have hword := hlines'.wordSpan?_eq
  have htokens := Lexer.tokensFrom_shift earlier.length none (lengthOfLines earlier)
    (d.lineText earlier.length)
  have hkept : ((fun t : Token => decide (t.start ≤ place + earlier.length)) ∘
      fun t : Token => t.shift earlier.length) = fun t : Token => decide (t.start ≤ place) := by
    funext t
    exact decide_eq_decide.mpr Nat.add_le_add_iff_right
  rw [List.length_map, hlines.lineText_withReturns hreturn, lengthOfLines_map_return] at hword
  rw [Option.map_none] at htokens
  rw [hword, hlines.wordSpan?_eq, placeWithReturns, hlines.lineNumber_eq, ← wordAmong_shift,
    htokens, List.filter_map, hkept, List.map_reverse]

/-- A token before the call stands in its way with returns exactly where it does without them. -/
theorem mayFollow_withReturns (h : place ≤ d.length) {t? : Option Token}
    (ht : ∀ t ∈ t?, t.start ≤ d.length) :
    d.withReturns.mayFollow (d.placeWithReturns place) (t?.map d.tokenWithReturns) =
      d.mayFollow place t? := by
  cases t? with
  | none => rfl
  | some t =>
    obtain ⟨-, hcursor⟩ := lineNumber_withReturns h
    obtain ⟨-, hstart⟩ := lineNumber_withReturns (ht t rfl)
    rw [Option.map_some, mayFollow, mayFollow, hcursor]
    change (decide (d.withReturns.lineNumber (d.placeWithReturns t.start) ≠ _) || _) = _
    rw [hstart]
    rfl

/-- Module completions apply with returns exactly where they do without them. -/
theorem opensModules_withReturns (hreturn : '\r' ∉ d.chars) (h : place ≤ d.length)
    (parenthesis quoted : Bool) :
    d.withReturns.opensModules (d.placeWithReturns place) parenthesis quoted =
      d.opensModules place parenthesis quoted := by
  have htext : ∀ t, (d.tokenWithReturns t).text = t.text := fun _ => rfl
  obtain ⟨hle, -⟩ := lineNumber_withReturns h
  rw [opensModules_natCast hle, opensModules_natCast h, scanBackward_withReturns hreturn h,
    beforeRequire?_map htext]
  cases hearlier : beforeRequire? (d.scanBackward place) parenthesis quoted with
  | none => rfl
  | some earlier =>
    rw [Option.map_some, Option.any_some, Option.any_some, List.head?_map]
    apply mayFollow_withReturns h
    intro t ht
    have hmem := (suffix_of_beforeRequire? hearlier).mem (List.mem_of_mem_head? ht)
    have hstop := stop_le_of_mem_scanBackward h hmem
    omega

/-- What is asked at a cursor has the same answers where every line feed has a return before it. -/
structure SameWithReturns (d : Document) (cursor : Nat) : Prop where
  /-- The scan sees the same tokens, each moved by the line feeds before it. -/
  scan_eq : d.withReturns.scanBackward (d.placeWithReturns cursor) =
    (d.scanBackward cursor).map d.tokenWithReturns
  /-- The tokens end where their ends are moved to. -/
  stop_eq : ∀ t ∈ d.scanBackward cursor, (d.tokenWithReturns t).stop = d.placeWithReturns t.stop
  /-- Module completions apply with returns as without, whatever may come before the cursor. -/
  opens_eq : ∀ parenthesis quoted,
    d.withReturns.opensModules (d.placeWithReturns cursor) parenthesis quoted =
      d.opensModules cursor parenthesis quoted
  /-- A typed text would open a module completion with returns as without. -/
  typing_eq : ∀ typed, d.withReturns.typingOpensModules (d.placeWithReturns cursor) typed =
    d.typingOpensModules cursor typed
  /-- The same quotation mark opens the argument. -/
  quote_eq : (d.withReturns.argumentAt (d.placeWithReturns cursor)).quote =
    (d.argumentAt cursor).quote
  /-- The word is the same, moved by the line feeds before the cursor. -/
  word_eq : d.withReturns.wordSpan? (d.placeWithReturns cursor) =
    (d.wordSpan? cursor).map (·.shift (d.lineNumber cursor))

/-- A document without carriage returns may have one put before every line feed. -/
theorem sameWithReturns (hreturn : '\r' ∉ d.chars) (h : place ≤ d.length) :
    d.SameWithReturns place where
  scan_eq := scanBackward_withReturns hreturn h
  stop_eq _ := stop_tokenWithReturns h
  opens_eq := opensModules_withReturns hreturn h
  typing_eq typed := by
    rw [typingOpensModules, typingOpensModules, opensModules_withReturns hreturn h,
      opensModules_withReturns hreturn h]
  quote_eq := by
    rw [quote_argumentAt, quote_argumentAt, scanBackward_withReturns hreturn h, List.head?_map,
      Option.bind_map]
    rfl
  word_eq := wordSpan?_withReturns hreturn h

/-- A cursor in an argument on the third of four lines, of which the second is empty. -/
theorem sameWithReturns_in_argument :
    let d := ofString "a // b\n\n= require('c\n"
    d.withReturns = ofString "a // b\r\n\r\n= require('c\r\n" ∧
      d.scanBackward 20 =
        [⟨.string, "'c", 18⟩, ⟨.operator, "(", 17⟩, ⟨.identifier, "require", 10⟩,
          ⟨.operator, "=", 8⟩, ⟨.comment, "// b", 2⟩, ⟨.identifier, "a", 0⟩] ∧
      '\r' ∉ d.chars ∧ 20 ≤ d.length ∧ d.SameWithReturns 20 := by
  intro d
  have hreturns : d.withReturns = ofString "a // b\r\n\r\n= require('c\r\n" := by
    simp only [d]
    cbv
  have hscan : d.scanBackward 20 =
      [⟨.string, "'c", 18⟩, ⟨.operator, "(", 17⟩, ⟨.identifier, "require", 10⟩,
        ⟨.operator, "=", 8⟩, ⟨.comment, "// b", 2⟩, ⟨.identifier, "a", 0⟩] := by
    simp only [d]
    cbv
  have hclean : '\r' ∉ d.chars := by decide
  have hinside : 20 ≤ d.length := by decide
  exact ⟨hreturns, hscan, hclean, hinside, sameWithReturns hclean hinside⟩

end Document

end ModuleHints

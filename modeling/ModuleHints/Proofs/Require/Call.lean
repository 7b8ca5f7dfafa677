import ModuleHints.Completion.Request
import ModuleHints.Proofs.Source.Scan

/-!
# Tokens of a call

Which tokens a call has before the cursor decides whether module completions apply there; of the
document itself only the line of the cursor and of the token before the call count. So two places
have the same verdict where their scans agree on the tokens before the call.
-/

namespace ModuleHints

theorem pass?_cons_of_ne {text : String} {t : Token} (h : t.text ≠ text) (rest : List Token) :
    pass? text (t :: rest) = none := by
  rw [pass?, if_neg h]

theorem beforeRequire?_cons_of_ne_parenthesis {t : Token} (h : t.text ≠ "(") (rest : List Token) :
    beforeRequire? (t :: rest) true false = none := by
  simp [beforeRequire?, passQuoted, pass?_cons_of_ne h]

theorem beforeRequire?_cons_quoted {t : Token} (h : t.openQuote?.isSome) (rest : List Token) :
    beforeRequire? (t :: rest) true true = beforeRequire? rest true false := by
  cases rest <;> simp [beforeRequire?, passQuoted, h]

/-- Where no string comes first, none is passed over. -/
theorem beforeRequire?_of_bare {tokens : List Token}
    (h : ∀ t ∈ tokens.head?, t.openQuote? = none) :
    beforeRequire? tokens true true = beforeRequire? tokens true false := by
  cases tokens with
  | nil => rfl
  | cons t rest =>
    have hbare : t.openQuote? = none := h t rfl
    simp [beforeRequire?, passQuoted, hbare]

/-- A call that needs its parenthesis begins with it. -/
theorem text_head_of_beforeRequire? {tokens earlier : List Token}
    (h : beforeRequire? tokens true false = some earlier) : ∀ t ∈ tokens.head?, t.text = "(" := by
  intro t ht
  cases tokens with
  | nil => cases ht
  | cons u rest =>
    cases ht
    by_contra hne
    rw [beforeRequire?_cons_of_ne_parenthesis hne] at h
    cases h

/-- What is left after a quoted token was among the tokens. -/
theorem passQuoted_suffix (allowed : Bool) (tokens : List Token) :
    passQuoted allowed tokens <:+ tokens := by
  cases tokens with
  | nil => exact List.suffix_refl _
  | cons t rest =>
    rw [passQuoted]
    split
    · exact List.suffix_cons t rest
    · exact List.suffix_refl _

/-- What is left after a passed token was among the tokens. -/
theorem suffix_of_pass? {text : String} {tokens rest : List Token}
    (h : pass? text tokens = some rest) : rest <:+ tokens := by
  obtain ⟨t, -, rfl⟩ := pass?_eq_some_iff.mp h
  exact List.suffix_cons t rest

/-- What comes before the word `require` was among the tokens. -/
theorem suffix_of_beforeRequire? {tokens earlier : List Token} {parenthesis quoted : Bool}
    (h : beforeRequire? tokens parenthesis quoted = some earlier) : earlier <:+ tokens := by
  have hquoted := passQuoted_suffix quoted tokens
  cases parenthesis with
  | false => exact (suffix_of_pass? h).trans hquoted
  | true =>
    obtain ⟨inner, hinner, hrequire⟩ := Option.bind_eq_some_iff.mp h
    exact ((suffix_of_pass? hrequire).trans (suffix_of_pass? hinner)).trans hquoted

/-- Tokens behind those of a call take no part in it. -/
theorem beforeRequire?_append {tokens earlier : List Token} {parenthesis quoted : Bool}
    (h : beforeRequire? tokens parenthesis quoted = some earlier) (more : List Token) :
    beforeRequire? (tokens ++ more) parenthesis quoted = some (earlier ++ more) := by
  have hpass : ∀ {text : String} {tokens rest : List Token}, pass? text tokens = some rest →
      pass? text (tokens ++ more) = some (rest ++ more) := by
    intro text tokens rest hrest
    obtain ⟨t, ht, rfl⟩ := pass?_eq_some_iff.mp hrest
    exact pass?_eq_some_iff.mpr ⟨t, ht, rfl⟩
  cases tokens with
  | nil => cases parenthesis <;> cases h
  | cons t rest =>
    have hquoted : passQuoted quoted (t :: rest ++ more) = passQuoted quoted (t :: rest) ++ more := by
      rw [List.cons_append, passQuoted, passQuoted]
      split <;> rfl
    rw [beforeRequire?, hquoted]
    cases parenthesis with
    | false => exact hpass h
    | true =>
      obtain ⟨inner, hinner, hrequire⟩ := Option.bind_eq_some_iff.mp h
      exact Option.bind_eq_some_iff.mpr ⟨inner ++ more, hpass hinner, hpass hrequire⟩

section Map

variable {f : Token → Token} (hf : ∀ t, (f t).text = t.text)
include hf

/-- A quoted token is passed over by what it says. -/
theorem passQuoted_map (allowed : Bool) (tokens : List Token) :
    passQuoted allowed (tokens.map f) = (passQuoted allowed tokens).map f := by
  cases tokens with
  | nil => rfl
  | cons t rest =>
    rw [List.map_cons, passQuoted, passQuoted, Token.openQuote?, hf, ← Token.openQuote?]
    split <;> rfl

/-- A token is passed by what it says. -/
theorem pass?_map (text : String) (tokens : List Token) :
    pass? text (tokens.map f) = (pass? text tokens).map (·.map f) := by
  cases tokens with
  | nil => rfl
  | cons t rest =>
    rw [List.map_cons, pass?, pass?, hf]
    split <;> rfl

/-- The tokens of a call are found by what they say, wherever they stand. -/
theorem beforeRequire?_map (tokens : List Token) (parenthesis quoted : Bool) :
    beforeRequire? (tokens.map f) parenthesis quoted =
      (beforeRequire? tokens parenthesis quoted).map (·.map f) := by
  rw [beforeRequire?, beforeRequire?, passQuoted_map hf]
  cases parenthesis with
  | false => exact pass?_map hf ..
  | true =>
    change (pass? "(" _).bind _ = Option.map _ ((pass? "(" _).bind _)
    rw [pass?_map hf]
    cases pass? "(" (passQuoted quoted tokens) with
    | none => rfl
    | some inner => exact pass?_map hf ..

end Map

namespace Document

variable {d e : Document} {m n : Nat}

/-- Module completions apply where the tokens before the cursor are those of a call that may stand
there. -/
theorem opensModules_natCast (h : n ≤ d.length) (parenthesis quoted : Bool) :
    d.opensModules n parenthesis quoted =
      (beforeRequire? (d.scanBackward n) parenthesis quoted).any fun earlier =>
        d.mayFollow n earlier.head? := by
  rw [opensModules, requireVerdict?, clamp_of_le h, Option.any_map]

/-- A request for modules is one for a call whose parenthesis is there and in which a string may
be. -/
theorem asksForModules_natCast (h : n ≤ d.length) :
    d.asksForModules n = d.opensModules n true true := by
  rw [asksForModules, requestVerdict?, clamp_of_le h, opensModules]

theorem lineNumber_congr (h : e.chars.take n = d.chars.take n) :
    e.lineNumber n = d.lineNumber n := by
  rw [lineNumber_natCast, lineNumber_natCast, h]

theorem scanBackward_congr (hd : n ≤ d.length) (he : n ≤ e.length)
    (h : e.chars.take n = d.chars.take n) : e.scanBackward n = d.scanBackward n := by
  rw [scanBackward, scanBackward, before, before, clamp_of_le hd, clamp_of_le he, h]

/-- A place of a document and a later place of another that goes on from there in the same line have
the same verdict where the tokens before the call are the same. -/
theorem opensModules_congr (hm : m ≤ d.length) (hn : n ≤ e.length)
    (htake : e.chars.take m = d.chars.take m) (hline : e.lineNumber n = d.lineNumber m)
    {parenthesis quoted parenthesis' quoted' : Bool}
    (hsame : beforeRequire? (e.scanBackward n) parenthesis' quoted' =
      beforeRequire? (d.scanBackward m) parenthesis quoted) :
    e.opensModules n parenthesis' quoted' = d.opensModules m parenthesis quoted := by
  rw [opensModules_natCast hn, opensModules_natCast hm, hsame]
  cases hearlier : beforeRequire? (d.scanBackward m) parenthesis quoted with
  | none => rfl
  | some earlier =>
    change e.mayFollow n earlier.head? = d.mayFollow m earlier.head?
    cases hhead : earlier.head? with
    | none => rfl
    | some t =>
      have hscanned := (suffix_of_beforeRequire? hearlier).mem (List.mem_of_mem_head? hhead)
      have hstop := stop_le_of_mem_scanBackward hm hscanned
      have hstart : e.lineNumber t.start = d.lineNumber t.start := by
        have hle : t.start ≤ m := by omega
        have htaken := congrArg (List.take t.start) htake
        rw [List.take_take, List.take_take, Nat.min_eq_left hle] at htaken
        exact lineNumber_congr htaken
      rw [mayFollow, mayFollow, hline, hstart]

end Document

end ModuleHints

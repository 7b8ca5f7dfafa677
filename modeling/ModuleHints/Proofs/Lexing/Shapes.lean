import Mathlib.Data.List.TakeWhile
import ModuleHints.Proofs.Lexing.Truncation

/-!
# Tokens known by their first character

A token that begins with a letter is a word, an opening parenthesis is always a token of its own,
and a quotation mark begins a string. What a lexeme of each kind begins with, and which reader says
where it ends, is told by its shape. A word grows only by characters of words, a parenthesis not at
all, and a string whose characters stand for themselves ends with the next mark of its kind.
-/

namespace ModuleHints.Lexer

open Unicode

/-- A token is the lexeme at its place in some text. -/
def IsLexeme (t : Token) : Prop := ∃ regexp c rest, t = tokenAt regexp t.start c rest

theorem isLexeme_of_mem {last : Option Token} {offset : Nat} {cs : List Char} {t : Token}
    (h : t ∈ tokensFrom last offset cs) : IsLexeme t := by
  obtain ⟨regexp, before, c, rest, -, -, rfl⟩ := exists_tokenAt_of_mem h
  exact ⟨regexp, c, rest, rfl⟩

/-- The kinds of tokens that are neither words nor strings. -/
def otherKinds : List TokenKind := [.number, .template, .regexp, .operator, .comment, .error]

/-- What the lexeme that begins with `c` can be, a case for each kind of token: what such a token
begins with, and which reader says how many of the characters after that belong to it. -/
inductive Shape (regexp : Bool) (c : Char) (rest : List Char) : TokenKind → Nat → Prop where
  /-- A word that is reserved. -/
  | keyword : isIdentStart c = true → String.ofList (c :: rest.takeWhile isIdentChar) ∈ keywords →
    Shape regexp c rest .keyword (rest.takeWhile isIdentChar).length
  /-- A word that is not. -/
  | identifier : isIdentStart c = true →
    String.ofList (c :: rest.takeWhile isIdentChar) ∉ keywords →
    Shape regexp c rest .identifier (rest.takeWhile isIdentChar).length
  /-- A digit, or a point before one. -/
  | number : isIdentStart c = false → (isDigit c || (c == '.' && digitNext rest)) = true →
    Shape regexp c rest .number (numberTail (opensHexadecimal c rest) c rest)
  /-- A quotation mark. -/
  | string (q : Quote) : c = q.char → Shape regexp c rest .string (stringTail c rest)
  /-- A backtick. -/
  | template : c = '\x60' → Shape regexp c rest .template (templateTail rest)
  /-- Two slashes. -/
  | lineComment (more : List Char) : c = '/' → rest = '/' :: more →
    Shape regexp c rest .comment (rest.takeWhile (· != '\n')).length
  /-- A slash and a star. -/
  | blockComment (more : List Char) : c = '/' → rest = '*' :: more →
    Shape regexp c rest .comment (blockTail more + 1)
  /-- A slash where a regular expression may begin. -/
  | regexp : c = '/' → regexp = true → Shape regexp c rest .regexp (regexpTail false rest)
  /-- The first operator of the table that stands there. -/
  | operator (op : String) : isIdentChar c = false → operatorAt? (c :: rest) = some op →
    Shape regexp c rest .operator (op.length - 1)
  /-- A character that begins nothing else. -/
  | error : isIdentChar c = false → operatorAt? (c :: rest) = none → Shape regexp c rest .error 0

/-- What begins no word and no number is no character of a word. -/
theorem isIdentChar_eq_false {c : Char} (hword : isIdentStart c = false)
    (hdigit : isDigit c = false) : isIdentChar c = false := by
  rw [Bool.eq_false_iff]
  intro hc
  have hascii : c.isDigit = false := by
    rw [Bool.eq_false_iff]
    intro hascii
    rw [isDigit_of_ascii hascii] at hdigit
    cases hdigit
  simp_all [isIdentChar, isIdentStart, Char.isAlphanum]

section Shape

variable (regexp : Bool) {c : Char} (rest : List Char)

/-- Punctuation is an operator or an error. -/
theorem shape_punctuation (hc : isIdentChar c = false) :
    Shape regexp c rest (punctuation c rest).1 (punctuation c rest).2 := by
  unfold punctuation
  split
  next op hop => exact .operator op hc hop
  next hnone => exact .error hc hnone

/-- What begins with a slash is a comment, a regular expression or an operator. -/
theorem shape_slash : Shape regexp '/' rest (slash regexp rest).1 (slash regexp rest).2 := by
  unfold slash
  split
  next more => exact .lineComment more rfl rfl
  next more => exact .blockComment more rfl rfl
  next =>
    split
    next hregexp => exact .regexp rfl hregexp
    next => exact shape_punctuation regexp rest (by decide)

/-- Every lexeme has the shape of its kind. -/
theorem shape_lexeme (c : Char) :
    Shape regexp c rest (lexeme regexp c rest).1 (lexeme regexp c rest).2 := by
  unfold lexeme
  split
  next hword =>
    dsimp only
    split
    next hreserved => exact .keyword hword (List.contains_iff_mem.mp hreserved)
    next hreserved => exact .identifier hword fun hmem => hreserved (List.contains_iff_mem.mpr hmem)
  next hword =>
    have hword : isIdentStart c = false := by simpa using hword
    split
    next hnumber => exact .number hword hnumber
    next hnumber =>
      split
      next hquote =>
        rcases hquote with rfl | rfl
        · exact .string .single rfl
        · exact .string .double rfl
      next =>
        split
        next hbacktick => exact .template hbacktick
        next =>
          split
          next hslash =>
            rw [hslash]
            exact shape_slash regexp rest
          next =>
            have hdigit : isDigit c = false := by simp_all
            exact shape_punctuation regexp rest (isIdentChar_eq_false hword hdigit)

end Shape

section Mem

variable {t : Token}

theorem exists_drop_eq_of_mem {last : Option Token} {offset : Nat} {cs : List Char}
    (h : t ∈ tokensFrom last offset cs) :
    ∃ regexp c rest, cs.drop (t.start - offset) = c :: rest ∧
      t = tokenAt regexp t.start c rest := by
  obtain ⟨regexp, before, c, rest, rfl, -, rfl⟩ := exists_tokenAt_of_mem h
  refine ⟨regexp, c, rest, ?_, rfl⟩
  rw [start_tokenAt, Nat.add_sub_cancel_left, List.drop_left]

/-- From a token on, a range begins with what has the shape of its kind. -/
theorem exists_shape_of_mem {source : List Char} {start stop : Nat}
    (h : t ∈ tokens source start stop) :
    ∃ regexp c rest n, Shape regexp c rest t.kind n ∧ (source.take stop).drop t.start = c :: rest ∧
      t.text.toList = c :: rest.take n ∧ t.stop = t.start + (n + 1) := by
  obtain ⟨regexp, c, rest, hdrop, hlex⟩ := exists_drop_eq_of_mem h
  rw [List.drop_drop, Nat.add_sub_cancel' (le_start_of_mem h)] at hdrop
  refine ⟨regexp, c, rest, (lexeme regexp c rest).2, ?_, hdrop, ?_, ?_⟩
  · rw [hlex]
    exact shape_lexeme regexp rest c
  · rw [hlex, toList_text_tokenAt]
  · rw [hlex, stop_tokenAt, start_tokenAt, Nat.add_assoc, Nat.add_comm 1]

end Mem

/-- The first character of a token says whether it is a word or a string. -/
theorem kind_cases (regexp : Bool) (c : Char) (rest : List Char) :
    (isIdentStart c = true ∧ ((lexeme regexp c rest).1 = .keyword ∨
        (lexeme regexp c rest).1 = .identifier)) ∨
      isIdentStart c = false ∧ ((∃ q : Quote, c = q.char) ∧ (lexeme regexp c rest).1 = .string ∨
        (lexeme regexp c rest).1 ∈ otherKinds) := by
  have hshape := shape_lexeme regexp rest c
  generalize (lexeme regexp c rest).1 = kind at hshape ⊢
  generalize (lexeme regexp c rest).2 = n at hshape
  have hslash : isIdentStart '/' = false := by decide
  have hother : isIdentChar c = false → isIdentStart c = false := fun hc => by
    rw [Bool.eq_false_iff] at hc ⊢
    exact fun hword => hc (isIdentChar_of_isIdentStart hword)
  cases hshape with
  | keyword hword => exact .inl ⟨hword, .inl rfl⟩
  | identifier hword => exact .inl ⟨hword, .inr rfl⟩
  | number hword => exact .inr ⟨hword, .inr (by decide)⟩
  | string q hquote => exact .inr ⟨by rw [hquote]; cases q <;> decide, .inl ⟨⟨q, hquote⟩, rfl⟩⟩
  | template hbacktick => exact .inr ⟨by rw [hbacktick]; decide, .inr (by decide)⟩
  | lineComment more hc => exact .inr ⟨by rw [hc, hslash], .inr (by decide)⟩
  | blockComment more hc => exact .inr ⟨by rw [hc, hslash], .inr (by decide)⟩
  | regexp hc => exact .inr ⟨by rw [hc, hslash], .inr (by decide)⟩
  | operator op hc => exact .inr ⟨hother hc, .inr (by decide)⟩
  | error hc => exact .inr ⟨hother hc, .inr (by decide)⟩

/-- A token may be completed exactly where it begins like a word. -/
theorem canComplete_tokenAt (regexp : Bool) (offset : Nat) (c : Char) (rest : List Char) :
    (tokenAt regexp offset c rest).canComplete = isIdentStart c := by
  have hother : ∀ kind ∈ otherKinds, ¬(kind = .identifier ∨ kind = .keyword) := by decide
  rw [tokenAt, Token.canComplete]
  rcases kind_cases regexp c rest with ⟨hword, hkind⟩ | ⟨hword, ⟨-, hkind⟩ | hkind⟩
  · rcases hkind with hkind | hkind <;> simp [hword, hkind]
  · simp [hword, hkind]
  · simpa [hword] using hother _ hkind

/-- Only a quotation mark begins a string. -/
theorem exists_quote_of_kind {regexp : Bool} {offset : Nat} {c : Char} {rest : List Char}
    (h : (tokenAt regexp offset c rest).kind = .string) : ∃ q : Quote, c = q.char := by
  have hother : ∀ kind ∈ otherKinds, kind ≠ .string := by decide
  rw [tokenAt] at h
  rcases kind_cases regexp c rest with ⟨-, hkind⟩ | ⟨-, ⟨hquote, -⟩ | hkind⟩
  · rcases hkind with hkind | hkind <;> cases hkind.symm.trans h
  · exact hquote
  · exact absurd h (hother _ hkind)

/-- The first character of a lexeme says whether it may be completed. -/
theorem IsLexeme.exists_first {t : Token} (ht : IsLexeme t) :
    ∃ c rest, t.text.toList = c :: rest ∧ t.canComplete = isIdentStart c := by
  obtain ⟨regexp, c, rest, hlex⟩ := ht
  refine ⟨c, rest.take (lexeme regexp c rest).2, ?_, ?_⟩
  · rw [hlex, toList_text_tokenAt]
  · rw [hlex, canComplete_tokenAt]

/-- A cut changes nothing about whether a token may be completed. -/
theorem canComplete_of_isCutAt {place : Nat} {whole left : Token}
    (h : Token.IsCutAt place whole left) (hwhole : IsLexeme whole) (hleft : IsLexeme left) :
    left.canComplete = whole.canComplete := by
  obtain ⟨c, rest, hc, hcompletes⟩ := hwhole.exists_first
  obtain ⟨c', rest', hc', hcompletes'⟩ := hleft.exists_first
  have htext := h.text_eq
  rw [hc, hc'] at htext
  have hfirst := congrArg List.head? htext
  rw [List.head?_take] at hfirst
  split at hfirst
  · cases hfirst
  · rw [hcompletes', hcompletes, Option.some.inj hfirst]

theorem take_length_takeWhile (p : Char → Bool) (cs : List Char) :
    cs.take (cs.takeWhile p).length = cs.takeWhile p :=
  (List.prefix_iff_eq_take.mp (List.takeWhile_prefix p)).symm

/-- A token that begins like a word is made of characters of words. -/
theorem isIdentChar_of_mem_tokenAt {c : Char} (hc : isIdentStart c = true) {regexp : Bool}
    {offset : Nat} {rest : List Char} {x : Char}
    (hx : x ∈ (tokenAt regexp offset c rest).text.toList) : isIdentChar x = true := by
  have hword : (lexeme regexp c rest).2 = (rest.takeWhile isIdentChar).length := by
    rw [lexeme, if_pos hc]
  rw [toList_text_tokenAt, hword, take_length_takeWhile] at hx
  rcases List.mem_cons.mp hx with rfl | hx
  · exact isIdentChar_of_isIdentStart hc
  · exact List.mem_takeWhile_imp hx

theorem IsLexeme.isIdentChar_of_mem {t : Token} (ht : IsLexeme t) (hcan : t.canComplete = true)
    {x : Char} (hx : x ∈ t.text.toList) : isIdentChar x = true := by
  obtain ⟨regexp, c, rest, hlex⟩ := ht
  rw [hlex] at hx hcan
  rw [canComplete_tokenAt] at hcan
  exact isIdentChar_of_mem_tokenAt hcan hx

theorem isIdentStart_of_mem_keywords :
    ∀ word ∈ keywords, word.toList.head?.map isIdentStart = some true := by
  decide

/-- A token is a reserved word exactly if its text is one. -/
theorem IsLexeme.kind_eq_keyword_iff {t : Token} (ht : IsLexeme t) :
    t.kind = .keyword ↔ t.text ∈ keywords := by
  obtain ⟨regexp, c, rest, hlex⟩ := ht
  have hshape := shape_lexeme regexp rest c
  rw [hlex, tokenAt]
  constructor
  · intro hkind
    dsimp only at hkind ⊢
    generalize (lexeme regexp c rest).2 = n at hshape ⊢
    rw [hkind] at hshape
    cases hshape with
    | keyword _ hreserved => rwa [take_length_takeWhile]
  · intro hmem
    dsimp only at hmem ⊢
    have hword : isIdentStart c = true := by simpa using isIdentStart_of_mem_keywords _ hmem
    rcases kind_cases regexp c rest with ⟨-, hkind | hkind⟩ | ⟨hother, -⟩
    · exact hkind
    · generalize (lexeme regexp c rest).2 = n at hshape hmem
      rw [hkind] at hshape
      cases hshape with
      | identifier _ hfree => exact absurd (take_length_takeWhile _ rest ▸ hmem) hfree
    · rw [hword] at hother
      cases hother

/-- The only operator that begins with an opening parenthesis is that. -/
theorem length_eq_one_of_parenthesis :
    ∀ op ∈ operators, op.toList.head? = some '(' → op.length = 1 := by decide

/-- A token that begins with an opening parenthesis has no other character. -/
theorem text_tokenAt_parenthesis (regexp : Bool) (offset : Nat) (rest : List Char) :
    (tokenAt regexp offset '(' rest).text = "(" := by
  have hlone : (lexeme regexp '(' rest).2 = 0 := by
    have hplain : lexeme regexp '(' rest = punctuation '(' rest := by
      rw [lexeme, if_neg (by decide), if_neg (by simp; decide +kernel), if_neg (by decide),
        if_neg (by decide), if_neg (by decide)]
    rw [hplain, punctuation]
    split
    next op hop =>
      obtain ⟨hmem, hpre, -⟩ := operatorAt?_eq_some_iff.mp hop
      have hhead : op.toList.head? = some '(' := by
        obtain ⟨tail, htail⟩ := hpre
        cases hchars : op.toList with
        | nil =>
          have hlen := congrArg List.length hchars
          rw [String.length_toList] at hlen
          exact absurd hlen (length_pos_of_mem_operators op hmem).ne'
        | cons first others =>
          rw [hchars] at htail
          rw [(List.cons.inj htail).1]
          rfl
      rw [length_eq_one_of_parenthesis op hmem hhead]
    next => rfl
  rw [← String.toList_inj, toList_text_tokenAt, hlone]
  rfl

/-- An opening parenthesis does not grow. -/
theorem IsLexeme.text_of_parenthesis {t : Token} (ht : IsLexeme t) {more : List Char}
    (h : t.text.toList = '(' :: more) : more = [] := by
  obtain ⟨regexp, c, rest, hlex⟩ := ht
  have hc : c = '(' := by
    rw [hlex, toList_text_tokenAt] at h
    exact (List.cons.inj h).1
  rw [hlex, hc, text_tokenAt_parenthesis] at h
  exact (List.cons.inj h).2.symm

section Parenthesis

variable {last : Option Token} {offset : Nat}

/-- No token crosses the end of a text whose last token is an opening parenthesis. -/
theorem not_crosses_of_parenthesis {w : List Char}
    (h : ∀ t ∈ (tokensFrom last offset w).getLast?, t.text = "(") (x : List Char) :
    ∀ u ∈ tokensFrom last offset (w ++ x), ¬u.Crosses (offset + w.length) := by
  rintro u hu ⟨hlt, hgt⟩
  obtain ⟨earlier, later, hsplit⟩ := List.append_of_mem hu
  obtain ⟨t, hcut, ht⟩ := tokensFrom_take_of_mem hsplit hlt hgt.le
  rw [List.take_left] at ht
  have hparenthesis : t.text = "(" := h t (by simp [ht])
  have hhead : ∃ more, u.text.toList = '(' :: more := by
    have htext := hcut.text_eq
    rw [hparenthesis] at htext
    cases hchars : u.text.toList with
    | nil =>
      rw [hchars, List.take_nil] at htext
      cases htext
    | cons c more =>
      have hlen : offset + w.length - u.start = (offset + w.length - u.start - 1) + 1 := by omega
      rw [hchars, hlen, List.take_succ_cons] at htext
      rw [← (List.cons.inj htext).1]
      exact ⟨more, rfl⟩
  obtain ⟨more, hmore⟩ := hhead
  have hnil := (isLexeme_of_mem hu).text_of_parenthesis hmore
  have hlen := congrArg List.length hmore
  rw [hnil, String.length_toList, List.length_singleton] at hlen
  rw [Token.stop, hlen] at hgt
  omega

/-- A blank character at the end of a text belongs to no token where the last token is an opening
parenthesis. -/
theorem tokensFrom_concat_blank {w : List Char} {c : Char} (hc : isBlank c = true)
    (h : ∀ t ∈ (tokensFrom last offset (w ++ [c])).getLast?, t.text = "(") :
    tokensFrom last offset (w ++ [c]) = tokensFrom last offset w := by
  have hcross : ∀ t ∈ tokensFrom last offset (w ++ [c]), ¬t.Crosses (offset + w.length) := by
    rintro t ht ⟨hlt, hgt⟩
    have hstop := stop_le_of_mem ht
    rw [List.length_append, List.length_singleton] at hstop
    obtain ⟨earlier, later, hsplit⟩ := List.append_of_mem ht
    have hbetween := isBetween_of_split hsplit
    have hlater : later = [] := by
      apply List.eq_nil_iff_forall_not_mem.mpr
      intro u hu
      have hu' := hbetween.stop_le_later u hu
      have hustop := stop_le_of_mem (hsplit ▸ List.mem_append_right _ (List.mem_cons_of_mem _ hu))
      rw [List.length_append, List.length_singleton] at hustop
      omega
    have hparenthesis : t.text = "(" := h t (by simp [hsplit, hlater])
    have hone : t.text.length = 1 := by
      rw [hparenthesis]
      rfl
    rw [Token.stop, hone] at hgt
    omega
  rw [tokensFrom_append hcross, tokensFrom_blank hc, tokensFrom_nil, List.append_nil]

end Parenthesis

/-- Characters that stand for themselves between two quotation marks. -/
def IsPlain (q : Quote) (cs : List Char) : Prop := ∀ c ∈ cs, c ≠ q.char ∧ c ≠ '\\' ∧ c ≠ '\n'

instance (q : Quote) (cs : List Char) : Decidable (IsPlain q cs) :=
  List.decidableBAll (fun c => c ≠ q.char ∧ c ≠ '\\' ∧ c ≠ '\n') cs

/-- A quotation mark begins a string. -/
theorem lexeme_quote (regexp : Bool) (q : Quote) (rest : List Char) :
    lexeme regexp q.char rest = (.string, stringTail q.char rest) := by
  have hword : isIdentStart q.char = false := by cases q <;> decide
  have hdigit : (isDigit q.char || (q.char == '.' && digitNext rest)) = false := by
    cases q <;> (simp [Quote.char]; decide +kernel)
  have hquote : q.char = '\'' ∨ q.char = '"' := by cases q <;> simp [Quote.char]
  rw [lexeme, if_neg (by simp [hword]), if_neg (by simp [hdigit]), if_pos hquote]

/-- A string goes on over characters that stand for themselves. -/
theorem stringTail_append {q : Quote} {cs : List Char} (h : IsPlain q cs) (rest : List Char) :
    stringTail q.char (cs ++ rest) = cs.length + stringTail q.char rest := by
  induction cs with
  | nil => rw [List.nil_append, List.length_nil, Nat.zero_add]
  | cons c cs ih =>
    obtain ⟨hquote, hslash, hfeed⟩ := h c (List.mem_cons_self ..)
    have hrest := ih fun d hd => h d (List.mem_cons_of_mem _ hd)
    rw [List.cons_append, stringTail_cons _ _ hslash, if_neg hfeed, if_neg hquote, hrest,
      List.length_cons]
    omega

theorem stringTail_quote (q : Quote) (rest : List Char) :
    stringTail q.char (q.char :: rest) = 1 := by
  rw [stringTail_cons _ _ (by cases q <;> decide), if_neg (by cases q <;> decide), if_pos rfl]

section Strings

variable (last : Option Token) (offset : Nat) {q : Quote} {cs : List Char}

theorem isBlank_quote (q : Quote) : isBlank q.char = false := by cases q <;> decide

/-- What stands between two quotation marks is one string with them. -/
theorem tokensFrom_quoted (h : IsPlain q cs) (rest : List Char) :
    ∃ others, tokensFrom last offset (q.char :: (cs ++ q.char :: rest)) =
      ⟨.string, String.ofList (q.char :: cs ++ [q.char]), offset⟩ :: others := by
  have htake : (cs ++ q.char :: rest).take (cs.length + 1) = cs ++ [q.char] := by
    rw [List.take_length_add_append, List.take_succ_cons, List.take_zero]
  have htoken : tokenAt (regexpAllowed last) offset q.char (cs ++ q.char :: rest) =
      ⟨.string, String.ofList (q.char :: cs ++ [q.char]), offset⟩ := by
    rw [tokenAt, lexeme_quote, stringTail_append h, stringTail_quote, htake, List.cons_append]
  rw [tokensFrom_token (isBlank_quote q), htoken]
  exact ⟨_, rfl⟩

/-- A string that nothing ends takes up the rest of the text. -/
theorem tokensFrom_unfinished (h : IsPlain q cs) :
    tokensFrom last offset (q.char :: cs) = [⟨.string, String.ofList (q.char :: cs), offset⟩] := by
  have htail := stringTail_append h []
  rw [List.append_nil, stringTail, Nat.add_zero] at htail
  have hlexeme : lexeme (regexpAllowed last) q.char cs = (.string, cs.length) := by
    rw [lexeme_quote, htail]
  rw [tokensFrom_token (isBlank_quote q), tokenAt, hlexeme, List.take_length, List.drop_length,
    tokensFrom_nil]

end Strings

end ModuleHints.Lexer

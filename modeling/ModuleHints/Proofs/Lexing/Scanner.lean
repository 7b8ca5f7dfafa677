import Mathlib.Data.List.Basic
import ModuleHints.Source.Scanner
import ModuleHints.Proofs.Unicode.LowerCase
import ModuleHints.Proofs.Lexing.Shapes

/-!
# The loop of a scanner

At every place a scanner reads the lexeme that the lexer reads off what is left of the range. Two
things are needed for this that do not show in the code: a digit is numeric, so a number has its
first character, and no place that a scanner asks for lies outside its range. So the loop moves on
at every character, and on every range of every source it makes the tokens that the lexer makes.
-/

namespace ModuleHints.Scanner

open Unicode Lexer

variable (s : Scanner)

/-- What of the range stands at a place and after it. -/
def rest (pos : Nat) : List Char := (s.source.take s.stop).drop pos

variable {s} {pos : Nat}

theorem rest_of_lt (h : pos < s.stop) : s.rest pos = s.charAt pos h :: s.rest (pos + 1) := by
  have hlen : pos < (s.source.take s.stop).length := by
    rw [List.length_take, Nat.min_eq_left s.le]
    exact h
  rw [rest, rest, List.drop_eq_getElem_cons hlen, List.getElem_take]
  rfl

theorem rest_of_le (h : s.stop ≤ pos) : s.rest pos = [] :=
  List.drop_eq_nil_iff.mpr ((List.length_take_le ..).trans h)

theorem rest_add (pos n : Nat) : s.rest (pos + n) = (s.rest pos).drop n := List.drop_drop.symm

theorem rest_succ (pos : Nat) : s.rest (pos + 1) = (s.rest pos).tail := by
  rw [rest_add, List.drop_one]

/-- As many characters stand at a place and after it as places are left. -/
theorem length_rest (pos : Nat) : (s.rest pos).length = s.stop - pos := by
  rw [rest, List.length_drop, List.length_take, Nat.min_eq_left s.le]

/-- The next character is the first of what stands there. -/
theorem peek?_eq_head? (pos : Nat) : s.peek? pos = (s.rest pos).head? := by
  rw [peek?]
  split
  next h => rw [rest_of_lt h, List.head?_cons]
  next h => rw [rest_of_le (Nat.le_of_not_lt h), List.head?_nil]

/-- A run ends after the characters that belong to it. -/
theorem runEnd_eq (p : Char → Bool) (pos : Nat) :
    s.runEnd p pos = pos + ((s.rest pos).takeWhile p).length := by
  induction pos using runEnd.induct s p with
  | case1 pos h hp ih =>
    rw [runEnd, dif_pos h, if_pos hp, ih, rest_of_lt h, List.takeWhile_cons_of_pos hp,
      List.length_cons]
    omega
  | case2 pos h hp =>
    rw [runEnd, dif_pos h, if_neg hp, rest_of_lt h, List.takeWhile_cons_of_neg hp, List.length_nil,
      Nat.add_zero]
  | case3 pos h =>
    rw [runEnd, dif_neg h, rest_of_le (Nat.le_of_not_lt h), List.takeWhile_nil, List.length_nil,
      Nat.add_zero]

theorem followsExponent_succ (h : pos < s.stop) :
    s.followsExponent (pos + 1) = (s.charAt pos h == 'e' || s.charAt pos h == 'E') := by
  rw [followsExponent, Nat.add_sub_cancel, List.getElem?_eq_getElem (h.trans_le s.le)]
  rfl

/-- After its first characters a number ends where the lexer ends it. -/
theorem numberEnd_eq (start : Nat) (prev : Char)
    (hprev : s.followsExponent pos = (prev == 'e' || prev == 'E')) :
    s.numberEnd start pos = pos + numberTail (s.isHexadecimal start) prev (s.rest pos) := by
  induction pos using numberEnd.induct s start generalizing prev with
  | case1 pos h c hc ih =>
    rw [numberEnd, dif_pos h, if_pos hc, ih _ (followsExponent_succ h), rest_of_lt h, numberTail,
      if_pos hc]
    omega
  | case2 pos h c hc hsign ih =>
    rw [numberEnd, dif_pos h, if_neg hc, if_pos hsign, ih _ (followsExponent_succ h), rest_of_lt h,
      numberTail, if_neg hc, if_pos (hprev ▸ hsign)]
    omega
  | case3 pos h c hc hsign =>
    rw [numberEnd, dif_pos h, if_neg hc, if_neg hsign, rest_of_lt h, numberTail, if_neg hc,
      if_neg (hprev ▸ hsign), Nat.add_zero]
  | case4 pos h =>
    rw [numberEnd, dif_neg h, rest_of_le (Nat.le_of_not_lt h), numberTail, Nat.add_zero]

/-- A reader that moves two places on at a backslash ends, once its end is brought back into the
range, where a reader of escapes does. -/
theorem min_escape {reader : Nat → Nat} {tail : List Char → Nat} (h : pos < s.stop)
    (hend : ∀ pos, s.stop ≤ pos → reader pos = pos) (hlone : tail ['\\'] = 1)
    (hpair : ∀ c rest, tail ('\\' :: c :: rest) = tail rest + 2)
    (ih : pos + 2 ≤ s.stop → min (reader (pos + 2)) s.stop = pos + 2 + tail (s.rest (pos + 2))) :
    min (reader (pos + 2)) s.stop = pos + tail ('\\' :: s.rest (pos + 1)) := by
  rcases Nat.lt_or_ge (pos + 1) s.stop with hnext | hlast
  · rw [ih hnext, rest_of_lt hnext, hpair, Nat.add_right_comm, Nat.add_assoc]
  · rw [hend (pos + 2) (by omega), rest_of_le hlast, hlone]
    omega

/-- A string ends where the lexer ends it. -/
theorem stringEnd_eq (quote : Char) (h : pos ≤ s.stop) :
    min (s.stringEnd quote pos) s.stop = pos + stringTail quote (s.rest pos) := by
  have hend (pos : Nat) (h : s.stop ≤ pos) : s.stringEnd quote pos = pos := by
    rw [stringEnd, dif_neg (Nat.not_lt.mpr h)]
  induction pos using stringEnd.induct s quote with
  | case1 pos hpos c hc ih =>
    rw [stringEnd, dif_pos hpos, if_pos hc, rest_of_lt hpos,
      show s.charAt pos hpos = '\\' from hc]
    exact min_escape hpos hend rfl (fun _ _ => rfl) ih
  | case2 pos hpos c hb hc =>
    rw [stringEnd, dif_pos hpos, if_neg hb, if_pos hc, rest_of_lt hpos, stringTail_cons _ _ hb,
      if_pos hc, Nat.min_eq_left h, Nat.add_zero]
  | case3 pos hpos c hb hf hc =>
    rw [stringEnd, dif_pos hpos, if_neg hb, if_neg hf, if_pos hc, rest_of_lt hpos,
      stringTail_cons _ _ hb, if_neg hf, if_pos hc, Nat.min_eq_left hpos]
  | case4 pos hpos c hb hf hq ih =>
    rw [stringEnd, dif_pos hpos, if_neg hb, if_neg hf, if_neg hq, ih hpos, rest_of_lt hpos,
      stringTail_cons _ _ hb, if_neg hf, if_neg hq]
    omega
  | case5 pos hpos =>
    have hstop := Nat.le_of_not_lt hpos
    rw [hend pos hstop, rest_of_le hstop, stringTail, Nat.min_eq_left h, Nat.add_zero]

/-- A template ends where the lexer ends it. -/
theorem templateEnd_eq (h : pos ≤ s.stop) :
    min (s.templateEnd pos) s.stop = pos + templateTail (s.rest pos) := by
  have hend (pos : Nat) (h : s.stop ≤ pos) : s.templateEnd pos = pos := by
    rw [templateEnd, dif_neg (Nat.not_lt.mpr h)]
  induction pos using templateEnd.induct s with
  | case1 pos hpos c hc ih =>
    rw [templateEnd, dif_pos hpos, if_pos hc, rest_of_lt hpos,
      show s.charAt pos hpos = '\\' from hc]
    exact min_escape hpos hend rfl (fun _ _ => rfl) ih
  | case2 pos hpos c hb hc =>
    rw [templateEnd, dif_pos hpos, if_neg hb, if_pos hc, rest_of_lt hpos, templateTail_cons _ hb,
      if_pos hc, Nat.min_eq_left hpos]
  | case3 pos hpos c hb hc ih =>
    rw [templateEnd, dif_pos hpos, if_neg hb, if_neg hc, ih hpos, rest_of_lt hpos,
      templateTail_cons _ hb, if_neg hc]
    omega
  | case4 pos hpos =>
    have hstop := Nat.le_of_not_lt hpos
    rw [hend pos hstop, rest_of_le hstop, templateTail, Nat.min_eq_left h, Nat.add_zero]

theorem runEnd_le (p : Char → Bool) (h : pos ≤ s.stop) : s.runEnd p pos ≤ s.stop := by
  have hle := length_takeWhile_le p (s.rest pos)
  rw [length_rest] at hle
  rw [runEnd_eq]
  omega

/-- A regular expression ends where the lexer ends it. -/
theorem regexpEnd_eq (inClass : Bool) (h : pos ≤ s.stop) :
    min (s.regexpEnd inClass pos) s.stop = pos + regexpTail inClass (s.rest pos) := by
  have hend (inClass : Bool) (pos : Nat) (h : s.stop ≤ pos) : s.regexpEnd inClass pos = pos := by
    rw [regexpEnd, dif_neg (Nat.not_lt.mpr h)]
  induction inClass, pos using regexpEnd.induct s with
  | case1 inClass pos hpos c hf =>
    have hb : c ≠ '\\' := by
      rw [hf]
      decide
    rw [regexpEnd, dif_pos hpos, if_pos hf, rest_of_lt hpos, regexpTail_cons _ _ hb, if_pos hf,
      Nat.min_eq_left h, Nat.add_zero]
  | case2 inClass pos hpos c hf hb ih =>
    rw [regexpEnd, dif_pos hpos, if_neg hf, if_pos hb, rest_of_lt hpos,
      show s.charAt pos hpos = '\\' from hb]
    exact min_escape hpos (hend inClass) rfl (fun _ _ => rfl) ih
  | case3 inClass pos hpos c hf hb hopen ih =>
    rw [regexpEnd, dif_pos hpos, if_neg hf, if_neg hb, if_pos hopen, ih hpos, rest_of_lt hpos,
      regexpTail_cons _ _ hb, if_neg hf, if_pos hopen]
    omega
  | case4 inClass pos hpos c hf hb hopen hclose ih =>
    rw [regexpEnd, dif_pos hpos, if_neg hf, if_neg hb, if_neg hopen, if_pos hclose, ih hpos,
      rest_of_lt hpos, regexpTail_cons _ _ hb, if_neg hf, if_neg hopen, if_pos hclose]
    omega
  | case5 inClass pos hpos c hf hb hopen hclose hslash =>
    have hle : s.runEnd isIdentChar (pos + 1) ≤ s.stop := runEnd_le _ hpos
    rw [regexpEnd, dif_pos hpos, if_neg hf, if_neg hb, if_neg hopen, if_neg hclose, if_pos hslash,
      Nat.min_eq_left hle, runEnd_eq, rest_of_lt hpos, regexpTail_cons _ _ hb,
      if_neg hf, if_neg hopen, if_neg hclose, if_pos hslash]
    omega
  | case6 inClass pos hpos c hf hb hopen hclose hslash ih =>
    rw [regexpEnd, dif_pos hpos, if_neg hf, if_neg hb, if_neg hopen, if_neg hclose, if_neg hslash,
      ih hpos, rest_of_lt hpos, regexpTail_cons _ _ hb, if_neg hf, if_neg hopen, if_neg hclose,
      if_neg hslash]
    omega
  | case7 inClass pos hpos =>
    have hstop := Nat.le_of_not_lt hpos
    rw [hend inClass pos hstop, rest_of_le hstop, regexpTail, Nat.min_eq_left h, Nat.add_zero]

/-- A star and a slash stand at a place where what is left begins with them. -/
theorem closes_iff :
    s.peek? pos = some '*' ∧ s.peek? (pos + 1) = some '/' ↔
      ∃ more, s.rest pos = '*' :: '/' :: more := by
  rw [peek?_eq_head?, peek?_eq_head?, rest_succ]
  constructor
  · rintro ⟨hstar, hslash⟩
    obtain ⟨after, hrest⟩ := List.head?_eq_some_iff.mp hstar
    rw [hrest] at hslash
    obtain ⟨more, rfl⟩ := List.head?_eq_some_iff.mp hslash
    exact ⟨more, hrest⟩
  · rintro ⟨more, hrest⟩
    rw [hrest]
    exact ⟨rfl, rfl⟩

/-- A block comment ends where the lexer ends it. -/
theorem blockEnd_eq (h : pos ≤ s.stop) : s.blockEnd pos = pos + blockTail (s.rest pos) := by
  induction pos using closing?.induct s with
  | case1 pos hpos hc =>
    obtain ⟨more, hrest⟩ := closes_iff.mp hc
    rw [blockEnd, closing?, if_pos hpos, if_pos hc, hrest, blockTail]
  | case2 pos hpos hc ih =>
    have htail : blockTail (s.charAt pos hpos :: s.rest (pos + 1)) =
        blockTail (s.rest (pos + 1)) + 1 :=
      blockTail.eq_3 _ _ fun more hstar hslash =>
        hc (closes_iff.mpr ⟨more, by rw [rest_of_lt hpos, hstar, hslash]⟩)
    rw [blockEnd, closing?, if_pos hpos, if_neg hc, ← blockEnd, ih hpos, rest_of_lt hpos, htail]
    omega
  | case3 pos hpos =>
    have hstop := Nat.le_of_not_lt hpos
    rw [blockEnd, closing?, if_neg hpos, rest_of_le hstop, blockTail]
    exact (Nat.le_antisymm h hstop).symm

/-- The text between two places of the range is the first part of what stands at the former. -/
theorem text_add {n : Nat} (h : pos + n ≤ s.stop) :
    s.text pos (pos + n) = String.ofList ((s.rest pos).take n) := by
  rw [text, rest, List.drop_take, List.drop_take, List.take_take, Nat.add_sub_cancel_left,
    Nat.min_eq_left (Nat.le_sub_of_add_le' h)]

/-- A word ends where the lexer ends it. -/
theorem wordEnd_eq (h : pos < s.stop) (hc : isIdentStart (s.charAt pos h) = true) :
    s.runEnd isIdentChar pos =
      pos + (((s.rest (pos + 1)).takeWhile isIdentChar).length + 1) := by
  rw [runEnd_eq, rest_of_lt h, List.takeWhile_cons_of_pos (isIdentChar_of_isIdentStart hc),
    List.length_cons]

/-- The text of a word is its first character and those that follow. -/
theorem text_word (h : pos < s.stop) (hc : isIdentStart (s.charAt pos h) = true) :
    s.text pos (s.runEnd isIdentChar pos) =
      String.ofList (s.charAt pos h :: (s.rest (pos + 1)).takeWhile isIdentChar) := by
  have hle := runEnd_le isIdentChar h.le
  rw [wordEnd_eq h hc] at hle ⊢
  rw [text_add hle, rest_of_lt h, List.take_succ_cons, take_length_takeWhile]

/-- The mark of a hexadecimal number is told alike wherever it stands inside the range, and no
character of the number comes after it otherwise. -/
theorem numberTail_isHexadecimal (h : pos < s.stop) :
    numberTail (s.isHexadecimal pos) (s.charAt pos h) (s.rest (pos + 1)) =
      numberTail (opensHexadecimal (s.charAt pos h) (s.rest (pos + 1))) (s.charAt pos h)
        (s.rest (pos + 1)) := by
  rcases Nat.lt_or_ge (pos + 1) s.stop with hnext | hlast
  · have hmark : s.isHexadecimal pos =
        opensHexadecimal (s.charAt pos h) (s.rest (pos + 1)) := by
      rw [isHexadecimal, text_add hnext, rest_of_lt h, rest_of_lt hnext, List.take_succ_cons,
        List.take_succ_cons, List.take_zero, opensHexadecimal, Bool.eq_iff_iff, beq_iff_eq,
        lowerCase_eq_hexadecimal_iff]
      simp only [Bool.and_eq_true, Bool.or_eq_true, beq_iff_eq]
    rw [hmark]
  · rw [rest_of_le hlast, numberTail, numberTail]

/-- A number ends where the lexer ends it: its first character belongs to it, since a digit is
numeric. -/
theorem numberEnd_start_eq (h : pos < s.stop)
    (hc : isDigit (s.charAt pos h) = true ∨ s.charAt pos h = '.') :
    s.numberEnd pos pos =
      pos + 1 + numberTail (opensHexadecimal (s.charAt pos h) (s.rest (pos + 1)))
        (s.charAt pos h) (s.rest (pos + 1)) := by
  have hfirst : (isAlphanumeric (s.charAt pos h) || s.charAt pos h == '.' ||
      s.charAt pos h == '_') = true := by
    rcases hc with hdigit | hdot
    · rw [isAlphanumeric_of_isDigit hdigit, Bool.true_or, Bool.true_or]
    · rw [hdot]
      decide +kernel
  rw [numberEnd, dif_pos h, if_pos hfirst, numberEnd_eq pos _ (followsExponent_succ h),
    numberTail_isHexadecimal]

/-- Punctuation is told as the lexer tells it. -/
theorem punctuationAt_eq (h : pos < s.stop) :
    s.punctuationAt pos =
      ((punctuation (s.charAt pos h) (s.rest (pos + 1))).1,
        pos + 1 + (punctuation (s.charAt pos h) (s.rest (pos + 1))).2) := by
  have hfind : operators.find? (fun op => op.toList.isPrefixOf ((s.source.take s.stop).drop pos)) =
      operatorAt? (s.charAt pos h :: s.rest (pos + 1)) := by
    rw [← rest_of_lt h]
    rfl
  rw [punctuationAt, hfind, punctuation]
  cases hop : operatorAt? (s.charAt pos h :: s.rest (pos + 1)) with
  | none => rfl
  | some op =>
    have hpos := length_pos_of_mem_operators op (operatorAt?_eq_some_iff.mp hop).1
    dsimp only
    rw [Nat.add_assoc, Nat.add_sub_cancel' hpos]

theorem lexOne_blank (regexp : Bool) (h : pos < s.stop) (hb : isBlank (s.charAt pos h) = true) :
    s.lexOne regexp pos h = (none, pos + 1) := by
  rw [lexOne, if_pos hb]

/-- The lexer tells by the character after a slash what begins there. -/
theorem slash_eq (regexp : Bool) (rest : List Char) :
    slash regexp rest =
      if rest.head? = some '/' then (.comment, (rest.takeWhile (· != '\n')).length)
      else if rest.head? = some '*' then (.comment, blockTail rest.tail + 1)
      else if regexp then (.regexp, regexpTail false rest)
      else punctuation '/' rest := by
  unfold slash
  split
  · rfl
  · rfl
  next hslash hstar =>
    have hline : rest.head? ≠ some '/' := fun hhead =>
      let ⟨more, hrest⟩ := List.head?_eq_some_iff.mp hhead
      hslash more hrest
    have hblock : rest.head? ≠ some '*' := fun hhead =>
      let ⟨more, hrest⟩ := List.head?_eq_some_iff.mp hhead
      hstar more hrest
    rw [if_neg hline, if_neg hblock]

theorem peek?_any_isDigit (pos : Nat) : (s.peek? pos).any isDigit = digitNext (s.rest pos) := by
  rw [peek?_eq_head?]
  cases s.rest pos <;> rfl

/-- Where a slash stands the loop goes on as the lexer does. -/
theorem lexOne_slash (regexp : Bool) (h : pos < s.stop) (hc : s.charAt pos h = '/') :
    s.lexOne regexp pos h =
      (some (slash regexp (s.rest (pos + 1))).1,
        pos + 1 + (slash regexp (s.rest (pos + 1))).2) := by
  have hdigit : isDigit '/' = false := by decide +kernel
  rw [lexOne, hc, if_neg (by decide +kernel), if_neg (by decide), if_neg (by simp [hdigit]),
    if_neg (by decide), if_neg (by decide), peek?_eq_head?, slash_eq]
  by_cases hline : (s.rest (pos + 1)).head? = some '/'
  · rw [if_pos ⟨rfl, hline⟩, if_pos hline, runEnd_eq, rest_of_lt h, hc,
      List.takeWhile_cons_of_pos (by decide), List.length_cons]
    congr 1
    omega
  rw [if_neg (fun hs => hline hs.2), if_neg hline]
  by_cases hblock : (s.rest (pos + 1)).head? = some '*'
  · have hnext : pos + 1 < s.stop := by
      by_contra hlast
      rw [rest_of_le (Nat.le_of_not_lt hlast)] at hblock
      cases hblock
    rw [if_pos ⟨rfl, hblock⟩, if_pos hblock, blockEnd_eq hnext, rest_succ (pos + 1)]
    congr 1
    omega
  rw [if_neg (fun hs => hblock hs.2), if_neg hblock]
  by_cases hregexp : regexp = true
  · rw [if_pos ⟨rfl, hregexp⟩, if_pos hregexp, regexpEnd_eq _ h]
  rw [if_neg (fun hs => hregexp hs.2), if_neg hregexp, punctuationAt_eq h, hc]
  rfl

/-- Any other character begins the lexeme that the lexer reads there. -/
theorem lexOne_token (regexp : Bool) (h : pos < s.stop) (hb : isBlank (s.charAt pos h) = false) :
    s.lexOne regexp pos h =
      (some (lexeme regexp (s.charAt pos h) (s.rest (pos + 1))).1,
        pos + 1 + (lexeme regexp (s.charAt pos h) (s.rest (pos + 1))).2) := by
  by_cases hslash : s.charAt pos h = '/'
  · rw [lexOne_slash regexp h hslash, hslash]
    rfl
  rw [lexOne, if_neg (by simp [hb]), lexeme, peek?_any_isDigit]
  dsimp only
  by_cases hword : isIdentStart (s.charAt pos h) = true
  · rw [if_pos hword, if_pos hword, text_word h hword, wordEnd_eq h hword]
    congr 1
    omega
  rw [if_neg hword, if_neg hword]
  by_cases hnum : (isDigit (s.charAt pos h) || (s.charAt pos h == '.' &&
      digitNext (s.rest (pos + 1)))) = true
  · have hfirst : isDigit (s.charAt pos h) = true ∨ s.charAt pos h = '.' := by
      simp only [Bool.or_eq_true, Bool.and_eq_true, beq_iff_eq] at hnum
      exact hnum.imp_right And.left
    rw [if_pos hnum, if_pos hnum, numberEnd_start_eq h hfirst]
  rw [if_neg hnum, if_neg hnum]
  by_cases hquote : s.charAt pos h = '\'' ∨ s.charAt pos h = '"'
  · rw [if_pos hquote, if_pos hquote, stringEnd_eq _ h]
  rw [if_neg hquote, if_neg hquote]
  by_cases htick : s.charAt pos h = '\x60'
  · rw [if_pos htick, if_pos htick, templateEnd_eq h]
  rw [if_neg htick, if_neg htick, if_neg (fun hc => hslash hc.1), if_neg (fun hc => hslash hc.1),
    if_neg (fun hc => hslash hc.1), if_neg hslash, punctuationAt_eq h]
  rfl

/-- What stands behind a token is what the lexer leaves of the range. -/
theorem rest_stop_tokenAt (regexp : Bool) (pos : Nat) (c : Char) :
    s.rest (tokenAt regexp pos c (s.rest (pos + 1))).stop =
      (s.rest (pos + 1)).drop (lexeme regexp c (s.rest (pos + 1))).2 := by
  rw [stop_tokenAt, rest_add]

/-- The token at a place has the text up to where the lexer goes on. -/
theorem text_stop_tokenAt (regexp : Bool) (h : pos < s.stop) :
    s.text pos (tokenAt regexp pos (s.charAt pos h) (s.rest (pos + 1))).stop =
      (tokenAt regexp pos (s.charAt pos h) (s.rest (pos + 1))).text := by
  have hle := lexeme_le regexp (s.charAt pos h) (s.rest (pos + 1))
  rw [length_rest] at hle
  rw [stop_tokenAt, Nat.add_assoc, text_add (by omega), rest_of_lt h, Nat.add_comm 1,
    List.take_succ_cons]
  rfl

/-- The lexer moves on at every character. -/
theorem lt_lexOne (regexp : Bool) (h : pos < s.stop) : pos < (s.lexOne regexp pos h).2 := by
  cases hb : isBlank (s.charAt pos h) with
  | true =>
    rw [lexOne_blank regexp h hb]
    exact Nat.lt_succ_self pos
  | false =>
    rw [lexOne_token regexp h hb]
    exact Nat.lt_of_lt_of_le (Nat.lt_succ_self pos) (Nat.le_add_right ..)

variable (s) in
/-- The tokens read so far and all that follow a place. -/
def scan (tokens : List Token) (pos : Nat) : List Token :=
  if h : pos < s.stop then
    let found := s.lexOne (regexpAllowed tokens.getLast?) pos h
    scan (tokens ++ found.1.toList.map fun kind => ⟨kind, s.text pos found.2, pos⟩) found.2
  else tokens
termination_by s.stop - pos
decreasing_by
  have hlt := lt_lexOne (regexpAllowed tokens.getLast?) h
  omega

/-- The loop adds the tokens of what stands at its place and after it. -/
theorem scan_eq (tokens : List Token) (pos : Nat) :
    s.scan tokens pos = tokens ++ tokensFrom tokens.getLast? pos (s.rest pos) := by
  induction tokens, pos using scan.induct s with
  | case1 tokens pos h found ih =>
    rw [scan, dif_pos h]
    refine ih.trans ?_
    rw [rest_of_lt h]
    cases hb : isBlank (s.charAt pos h) with
    | true =>
      have hfound : found = (none, pos + 1) := lexOne_blank _ h hb
      rw [hfound, tokensFrom_blank hb, Option.toList_none, List.map_nil, List.append_nil]
    | false =>
      have htext := text_stop_tokenAt (regexpAllowed tokens.getLast?) h
      have hfound := lexOne_token (regexpAllowed tokens.getLast?) h hb
      rw [← stop_tokenAt _ pos] at hfound
      rw [show found = _ from hfound, tokensFrom_token hb, Option.toList_some, List.map_singleton,
        ← rest_stop_tokenAt _ pos, htext, List.append_assoc, List.singleton_append,
        List.getLast?_concat]
      rfl
  | case2 tokens pos h =>
    rw [scan, dif_neg h, rest_of_le (Nat.le_of_not_lt h), tokensFrom_nil, List.append_nil]

/-- On every range of every source the loop makes the tokens that the lexer makes. -/
theorem scan_upTo_eq_tokenize (source : List Char) (start : Int) (stop : Option Int) :
    (upTo source stop).scan [] start.toNat = tokenize source start stop := by
  rw [scan_eq, List.nil_append, List.getLast?_nil, rest, upTo, tokenize, tokens,
    ← List.take_eq_take_min]

end ModuleHints.Scanner

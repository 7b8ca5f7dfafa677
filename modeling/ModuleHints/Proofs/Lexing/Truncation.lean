import ModuleHints.Proofs.Lexing.Tokens

/-!
# Cutting a text

The tokens of a text that is cut short are those of the whole text: those that end before the cut
are unchanged, and one token that the cut parts is left as far as the cut. The other way round, a
text may be lexed in two pieces wherever no token crosses from the one to the other, and whether one
does shows in the first character after the place.
-/

namespace ModuleHints

/-- Whether a place lies inside a token. -/
def Token.Crosses (t : Token) (place : Nat) : Prop := t.start < place ∧ place < t.stop

/-- The second token is what a cut of the text leaves of the first. -/
structure Token.IsCutAt (place : Nat) (whole left : Token) : Prop where
  /-- The token begins where it did. -/
  start_eq : left.start = whole.start
  /-- Its text is that of the whole token up to the cut. -/
  text_eq : left.text.toList = whole.text.toList.take (place - whole.start)
  /-- A token that ends before the cut is unchanged. -/
  eq_of_stop_le : whole.stop ≤ place → left = whole

/-- What is left of a token stops where the token did, or at the cut. -/
theorem Token.IsCutAt.stop_eq {place : Nat} {whole left : Token} (h : IsCutAt place whole left)
    (hle : whole.start ≤ place) : left.stop = min place whole.stop := by
  have hlen := congrArg List.length h.text_eq
  rw [List.length_take, String.length_toList, String.length_toList] at hlen
  rw [stop, stop, h.start_eq, hlen]
  omega

namespace Lexer

open Unicode

variable {last : Option Token} {offset : Nat}

theorem filter_start_lt_eq_nil {place : Nat} (h : place ≤ offset) (cs : List Char) :
    (tokensFrom last offset cs).filter (·.start < place) = [] := by
  rw [List.filter_eq_nil_iff]
  intro t ht
  have hle := le_start_of_mem ht
  simp only [decide_eq_true_eq]
  omega

/-- A cut after the first character of a token leaves its beginning. -/
theorem isCutAt_tokenAt (regexp : Bool) (offset : Nat) (c : Char) (rest : List Char) (n : Nat) :
    Token.IsCutAt (offset + (n + 1)) (tokenAt regexp offset c rest)
      (tokenAt regexp offset c (rest.take n)) := by
  have hcut := lexeme_take regexp c rest n
  refine ⟨rfl, ?_, ?_⟩
  · rw [toList_text_tokenAt, toList_text_tokenAt, start_tokenAt, Nat.add_sub_cancel_left,
      List.take_succ_cons, List.take_take, List.take_take, hcut.length_eq]
    congr 2
    omega
  · intro hle
    rw [stop_tokenAt] at hle
    have hmore : (lexeme regexp c rest).2 ≤ n := by omega
    rw [tokenAt, tokenAt, lexeme_take_of_le hmore, List.take_take, Nat.min_eq_left hmore]

/-- Cutting the text cuts its tokens and does nothing else to them. -/
theorem tokensFrom_take (last : Option Token) (offset : Nat) (cs : List Char) (n : Nat) :
    List.Forall₂ (Token.IsCutAt (offset + n))
      ((tokensFrom last offset cs).filter (·.start < offset + n))
      (tokensFrom last offset (cs.take n)) := by
  induction last, offset, cs using tokens_induction generalizing n with
  | nil => simp
  | blank last offset c rest hb ih =>
    cases n with
    | zero =>
      rw [filter_start_lt_eq_nil (Nat.add_zero offset).le, List.take_zero, tokensFrom_nil]
      exact .nil
    | succ n =>
      rw [List.take_succ_cons, tokensFrom_blank hb, tokensFrom_blank hb]
      have hplace : offset + (n + 1) = offset + 1 + n := by omega
      rw [hplace]
      exact ih n
  | token last offset c rest hb ih =>
    cases n with
    | zero =>
      rw [filter_start_lt_eq_nil (Nat.add_zero offset).le, List.take_zero, tokensFrom_nil]
      exact .nil
    | succ n =>
      have hcut := lexeme_take (regexpAllowed last) c rest n
      have hstop := stop_tokenAt (regexpAllowed last) offset c rest
      rw [List.take_succ_cons, tokensFrom_token hb, tokensFrom_token hb,
        List.filter_cons_of_pos (by simp)]
      refine .cons (isCutAt_tokenAt ..) ?_
      rcases Nat.lt_or_ge n (lexeme (regexpAllowed last) c rest).2 with hlt | hle
      · rw [filter_start_lt_eq_nil (by omega), List.drop_of_length_le, tokensFrom_nil]
        · exact .nil
        · rw [hcut.length_eq, List.length_take]
          omega
      · have hsame : tokenAt (regexpAllowed last) offset c (rest.take n) =
            tokenAt (regexpAllowed last) offset c rest :=
          (isCutAt_tokenAt ..).eq_of_stop_le (by omega)
        have hplace : offset + (n + 1) =
            (tokenAt (regexpAllowed last) offset c rest).stop +
              (n - (lexeme (regexpAllowed last) c rest).2) := by
          omega
        rw [hsame, lexeme_take_of_le hle, List.drop_take, hplace]
        exact ih _

/-- What a token leaves when the text is cut after its beginning. -/
theorem exists_cut_of_mem {cs : List Char} {t : Token} (ht : t ∈ tokensFrom last offset cs)
    {n : Nat} (hn : t.start < offset + n) :
    ∃ u ∈ tokensFrom last offset (cs.take n), Token.IsCutAt (offset + n) t u := by
  have hmem : t ∈ (tokensFrom last offset cs).filter (·.start < offset + n) :=
    List.mem_filter.mpr ⟨ht, by simpa using hn⟩
  obtain ⟨i, hi, rfl⟩ := List.getElem_of_mem hmem
  have hcut := tokensFrom_take last offset cs n
  have hi' := hcut.length_eq ▸ hi
  exact ⟨_, List.getElem_mem hi', hcut.get hi hi'⟩

/-- Of tokens that stand in order, only one has a given place inside. -/
theorem length_le_one_of_crosses {place : Nat} :
    ∀ {tokens : List Token}, tokens.Pairwise (fun t u => t.stop ≤ u.start) →
      (∀ t ∈ tokens, t.Crosses place) → tokens.length ≤ 1
  | [], _, _ => Nat.zero_le _
  | [_], _, _ => le_rfl
  | t :: u :: _, hp, hall => by
    have hle := (List.pairwise_cons.mp hp).1 u (List.mem_cons_self ..)
    have ht := hall t (List.mem_cons_self ..)
    have hu := hall u (List.mem_cons_of_mem _ (List.mem_cons_self ..))
    exact absurd (ht.2.trans_le hle) (Nat.lt_asymm hu.1)

/-- Where no token crosses a place, the text is lexed in two pieces: what comes before it by itself,
and what comes after it with the last token before it in mind. -/
theorem tokensFrom_append {w x : List Char}
    (h : ∀ t ∈ tokensFrom last offset (w ++ x), ¬t.Crosses (offset + w.length)) :
    tokensFrom last offset (w ++ x) =
      tokensFrom last offset w ++
        tokensFrom (lastAfter last (tokensFrom last offset w)) (offset + w.length) x := by
  generalize hcs : w ++ x = cs at h ⊢
  induction last, offset, cs using tokens_induction generalizing w with
  | nil => simp_all [lastAfter_nil]
  | blank last offset c rest hb ih =>
    cases w with
    | nil => simp_all [lastAfter_nil]
    | cons d w =>
      rw [List.cons_append] at hcs
      obtain ⟨rfl, rfl⟩ := List.cons.inj hcs
      rw [tokensFrom_blank hb, tokensFrom_blank hb]
      rw [tokensFrom_blank hb] at h
      have hplace : offset + (d :: w).length = offset + 1 + w.length := by
        rw [List.length_cons]
        omega
      rw [hplace] at h ⊢
      exact ih rfl h
  | token last offset c rest hb ih =>
    cases w with
    | nil => simp_all [lastAfter_nil]
    | cons d w =>
      rw [List.cons_append] at hcs
      obtain ⟨rfl, rfl⟩ := List.cons.inj hcs
      rw [tokensFrom_token hb] at h
      have hstop := stop_tokenAt (regexpAllowed last) offset d (w ++ x)
      have hfirst := h _ (List.mem_cons_self ..)
      rw [Token.Crosses, start_tokenAt, List.length_cons] at hfirst
      have hmore : (lexeme (regexpAllowed last) d (w ++ x)).2 ≤ w.length := by omega
      have hsame : lexeme (regexpAllowed last) d w = lexeme (regexpAllowed last) d (w ++ x) := by
        have htake := lexeme_take_of_le hmore
        rwa [List.take_left] at htake
      have htoken : tokenAt (regexpAllowed last) offset d w =
          tokenAt (regexpAllowed last) offset d (w ++ x) := by
        rw [tokenAt, tokenAt, hsame, List.take_append_of_le_length hmore]
      have hplace : offset + (d :: w).length =
          (tokenAt (regexpAllowed last) offset d (w ++ x)).stop +
            (w.drop (lexeme (regexpAllowed last) d (w ++ x)).2).length := by
        rw [List.length_drop, List.length_cons]
        omega
      rw [tokensFrom_token hb, tokensFrom_token hb, htoken, hsame, List.cons_append, lastAfter_cons,
        hplace]
      congr 1
      rw [hplace] at h
      exact ih (List.drop_append_of_le_length hmore).symm
        fun t ht => h t (List.mem_cons_of_mem _ ht)

/-- Whether a token crosses a place shows in the first character after the place. -/
theorem not_crosses_of_first {w : List Char} {c : Char}
    (h : ∀ t ∈ tokensFrom last offset (w ++ [c]), ¬t.Crosses (offset + w.length)) (x : List Char) :
    ∀ t ∈ tokensFrom last offset (w ++ c :: x), ¬t.Crosses (offset + w.length) := by
  intro t ht hcross
  obtain ⟨u, hu, hcut⟩ := exists_cut_of_mem ht (n := w.length + 1)
    (by have := hcross.1; omega)
  have htake : (w ++ c :: x).take (w.length + 1) = w ++ [c] := by
    rw [List.take_length_add_append, List.take_succ_cons, List.take_zero]
  rw [htake] at hu
  have hstop := hcut.stop_eq (by have := hcross.1; omega)
  refine h u hu ⟨?_, ?_⟩
  · rw [hcut.start_eq]
    exact hcross.1
  · rw [hstop]
    have := hcross.2
    omega

/-- What a relation makes of tokens that it leaves unchanged. -/
private theorem eq_of_forall₂ {R : Token → Token → Prop} :
    ∀ {tokens left : List Token}, List.Forall₂ R tokens left →
      (∀ e ∈ tokens, ∀ u, R e u → u = e) → left = tokens
  | [], _, .nil, _ => rfl
  | e :: _, _, .cons he hrest, hsame => by
    rw [hsame e (List.mem_cons_self ..) _ he,
      eq_of_forall₂ hrest fun d hd => hsame d (List.mem_cons_of_mem _ hd)]

/-- What a relation makes of tokens that it leaves unchanged and of one more. -/
private theorem eq_append_of_forall₂ {R : Token → Token → Prop} {t : Token} :
    ∀ {earlier left : List Token}, List.Forall₂ R (earlier ++ [t]) left →
      (∀ e ∈ earlier, ∀ u, R e u → u = e) → ∃ u, R t u ∧ left = earlier ++ [u]
  | [], _, .cons ht .nil, _ => ⟨_, ht, rfl⟩
  | e :: _, _, .cons he hrest, hsame => by
    obtain ⟨u, hu, rfl⟩ := eq_append_of_forall₂ hrest fun d hd =>
      hsame d (List.mem_cons_of_mem _ hd)
    exact ⟨u, hu, by rw [hsame e (List.mem_cons_self ..) _ he, List.cons_append]⟩

/-- Where a token stands among others in a text. -/
structure IsBetween (earlier later : List Token) (t : Token) : Prop where
  /-- The token has a first character. -/
  start_lt_stop : t.start < t.stop
  /-- The tokens before it end before it begins. -/
  earlier_stop_le : ∀ e ∈ earlier, e.start < e.stop ∧ e.stop ≤ t.start
  /-- The tokens after it begin after it ends. -/
  stop_le_later : ∀ u ∈ later, t.stop ≤ u.start ∧ u.start < u.stop

/-- The tokens of a text stand before and after each one of them. -/
theorem isBetween_of_split {cs : List Char} {earlier later : List Token} {t : Token}
    (h : tokensFrom last offset cs = earlier ++ t :: later) : IsBetween earlier later t := by
  have hp := pairwise_tokensFrom last offset cs
  have hpos : ∀ u ∈ earlier ++ t :: later, u.start < u.stop :=
    fun u hu => start_lt_stop_of_mem (h ▸ hu)
  rw [h] at hp
  obtain ⟨-, hrest, hearlier⟩ := List.pairwise_append.mp hp
  exact {
    start_lt_stop := hpos t (by simp)
    earlier_stop_le := fun e he =>
      ⟨hpos e (List.mem_append_left _ he), hearlier e he t (List.mem_cons_self ..)⟩
    stop_le_later := fun u hu =>
      ⟨(List.pairwise_cons.mp hrest).1 u hu, hpos u (by simp [hu])⟩ }

/-- The tokens that begin before a place that comes after the earlier ones and before the later
ones. -/
theorem IsBetween.filter_start_lt {earlier later : List Token} {t : Token}
    (h : IsBetween earlier later t) {place : Nat} (hlo : t.start ≤ place) (hhi : place ≤ t.stop) :
    (earlier ++ t :: later).filter (·.start < place) =
      earlier ++ if t.start < place then [t] else [] := by
  have hkept : earlier.filter (·.start < place) = earlier := by
    rw [List.filter_eq_self]
    intro e he
    have hstart := h.earlier_stop_le e he
    simp only [decide_eq_true_eq]
    omega
  have hlost : later.filter (·.start < place) = [] := by
    rw [List.filter_eq_nil_iff]
    intro u hu
    have hstart := h.stop_le_later u hu
    simp only [decide_eq_true_eq]
    omega
  rw [List.filter_append, hkept, List.filter_cons, hlost]
  simp

/-- No token crosses the beginning of another. -/
theorem not_crosses_start {cs : List Char} {earlier later : List Token} {t : Token}
    (h : tokensFrom last offset cs = earlier ++ t :: later) :
    ∀ u ∈ tokensFrom last offset cs, ¬u.Crosses t.start := by
  have hbetween := isBetween_of_split h
  rw [h]
  rintro u hu ⟨hlt, hgt⟩
  rcases List.mem_append.mp hu with hu | hu
  · have hstop := hbetween.earlier_stop_le u hu
    omega
  · rcases List.mem_cons.mp hu with rfl | hu
    · omega
    · have hstart := hbetween.stop_le_later u hu
      have hpos := hbetween.start_lt_stop
      omega

/-- A cut inside a token, or at its end, leaves the tokens before it and what it cuts of the
token. -/
theorem tokensFrom_take_of_mem {cs : List Char} {earlier later : List Token} {t : Token}
    (h : tokensFrom last offset cs = earlier ++ t :: later) {n : Nat} (hlt : t.start < offset + n)
    (hle : offset + n ≤ t.stop) :
    ∃ u, Token.IsCutAt (offset + n) t u ∧ tokensFrom last offset (cs.take n) = earlier ++ [u] := by
  have hbetween := isBetween_of_split h
  have hcut := tokensFrom_take last offset cs n
  rw [h, hbetween.filter_start_lt hlt.le hle, if_pos hlt] at hcut
  refine eq_append_of_forall₂ hcut fun e he u hu => hu.eq_of_stop_le ?_
  have hstop := hbetween.earlier_stop_le e he
  omega

/-- The text before a token has the tokens before it. -/
theorem tokensFrom_take_start {cs : List Char} {earlier later : List Token} {t : Token}
    (h : tokensFrom last offset cs = earlier ++ t :: later) :
    tokensFrom last offset (cs.take (t.start - offset)) = earlier := by
  have hbetween := isBetween_of_split h
  have hcut := tokensFrom_take last offset cs (t.start - offset)
  have hle : offset ≤ t.start :=
    le_start_of_mem (h ▸ List.mem_append_right _ (List.mem_cons_self ..))
  rw [h, Nat.add_sub_cancel' hle, hbetween.filter_start_lt le_rfl hbetween.start_lt_stop.le,
    if_neg (Nat.lt_irrefl _), List.append_nil] at hcut
  exact eq_of_forall₂ hcut fun e he u hu => hu.eq_of_stop_le (hbetween.earlier_stop_le e he).2

/-- A token of a range lies in it and in the source, and is made of the characters from its start to
its stop. -/
theorem mem_tokens {source : List Char} {start stop : Nat} {t : Token}
    (h : t ∈ tokens source start stop) :
    start ≤ t.start ∧ t.stop ≤ min stop source.length ∧
      t.text.toList = (source.take t.stop).drop t.start := by
  have hstart := le_start_of_mem h
  have hstop := stop_le_of_mem h
  have hpos := start_lt_stop_of_mem h
  rw [List.length_drop, List.length_take] at hstop
  have hle : t.stop ≤ min stop source.length := by omega
  refine ⟨hstart, hle, ?_⟩
  rw [text_of_mem h, List.drop_drop, Nat.add_sub_cancel' hstart, List.take_drop, List.take_take]
  congr 2
  omega

theorem stop_le_length_of_mem_tokens {source : List Char} {start stop : Nat} {t : Token}
    (h : t ∈ tokens source start stop) : t.stop ≤ source.length :=
  (mem_tokens h).2.1.trans (Nat.min_le_right ..)

/-- What a range that ends at a place leaves of a token of a longer range. -/
structure IsLeftOf (source : List Char) (place : Nat) (whole left : Token) : Prop where
  /-- The token begins where it did. -/
  start_eq : left.start = whole.start
  /-- A token that ends in the range is unchanged. -/
  eq_of_stop_le : whole.stop ≤ place → left = whole
  /-- Any other token ends with the range. -/
  stop_eq : place < whole.stop → left.stop = place
  /-- It is then made of the characters up to the end of the range. -/
  text_eq : place < whole.stop → left.text.toList = (source.take place).drop whole.start

/-- The tokens of a range are those of a longer range that begin in it, one for one: those that end
in it are unchanged, and at most one crosses its end and is cut there, which may change its kind. -/
theorem tokenize_shorter_range (source : List Char) {a b c : Nat} (h : b ≤ c) :
    List.Forall₂ (IsLeftOf source b)
      ((tokenize source a (some c)).filter (·.start < b)) (tokenize source a (some b)) ∧
    ((tokenize source a (some c)).filter fun t => t.start < b ∧ b < t.stop).length ≤ 1 := by
  have hwhole : tokenize source a (some c) = tokens source a c := by
    simp [tokenize]
  have hleft : tokenize source a (some b) = tokens source a b := by
    simp [tokenize]
  rw [hwhole, hleft]
  constructor
  · rcases Nat.lt_or_ge a b with hab | hba
    · have hrange : (source.take b).drop a = ((source.take c).drop a).take (b - a) := by
        rw [List.take_drop, List.take_take, Nat.add_sub_cancel' hab.le, Nat.min_eq_left h]
      have hcut := tokensFrom_take none a ((source.take c).drop a) (b - a)
      rw [← hrange, Nat.add_sub_cancel' hab.le] at hcut
      refine ((List.forall₂_and_left _ _).mpr ⟨fun t ht => List.mem_filter.mp ht, hcut⟩).imp ?_
      rintro t u ⟨⟨ht, hlt⟩, hu⟩
      have hlt : t.start < b := by simpa using hlt
      have htext := (mem_tokens ht).2.2
      refine ⟨hu.start_eq, hu.eq_of_stop_le, ?_, ?_⟩
      · intro hb
        rw [hu.stop_eq hlt.le, Nat.min_eq_left hb.le]
      · intro hb
        rw [hu.text_eq, htext, List.take_drop, List.take_take]
        congr 2
        omega
    · have hnone : (source.take b).drop a = [] :=
        List.drop_of_length_le ((List.length_take_le ..).trans hba)
      rw [tokens, filter_start_lt_eq_nil hba, tokens, hnone, tokensFrom_nil]
      exact .nil
  · have hall : ∀ t ∈ (tokens source a c).filter fun t => t.start < b ∧ b < t.stop, t.Crosses b :=
      fun t ht => by simpa [Token.Crosses] using (List.mem_filter.mp ht).2
    exact length_le_one_of_crosses ((pairwise_tokensFrom ..).filter _) hall

/-- A range that ends inside the escape of a regular expression. -/
theorem tokenize_shorter_range_in_escape :
    7 ≤ 12 ∧
      List.Forall₂ (IsLeftOf "x = /[\\/]/g;".toList 7)
        ((tokenize "x = /[\\/]/g;".toList 0 (some 12)).filter (·.start < 7))
        (tokenize "x = /[\\/]/g;".toList 0 (some 7)) ∧
      ((tokenize "x = /[\\/]/g;".toList 0 (some 12)).filter
        fun t => t.start < 7 ∧ 7 < t.stop).length ≤ 1 :=
  ⟨by decide, tokenize_shorter_range "x = /[\\/]/g;".toList (by decide)⟩

end Lexer

end ModuleHints

import Mathlib
import ModuleHints.Completion.WordSpan
import ModuleHints.Proofs.Lexing.Munch
import ModuleHints.Proofs.Source.Walk

/-!
# The word that touches a position

Which word a position has is decided from the last two tokens that begin no later, case by case. What
the cases amount to is one rule: the word is the token of the line that may be completed and in which
the position lies, its two ends included. There is never a second one, because two words of a line
do not touch.
-/

namespace ModuleHints

/-- Whether a token may be completed and a position lies in it or at one of its ends. -/
def Token.isWordAt (t : Token) (position : Int) : Bool :=
  t.canComplete ∧ t.start ≤ position ∧ position ≤ t.stop

/-- A token that may be completed is the word at all its places. -/
theorem Token.isWordAt_iff {t : Token} {position : Nat} :
    t.isWordAt position = true ↔
      t.canComplete = true ∧ t.start ≤ position ∧ position ≤ t.stop := by
  rw [isWordAt, decide_eq_true_eq, Int.ofNat_le, Int.ofNat_le]

section Among

variable {position : Nat} {last : Token} {earlier tokens : List Token}

/-- A position in a token, or at its end, asks for that token alone. -/
theorem wordAmong_of_lt (h : last.start < position) :
    wordAmong position (last :: earlier) =
      if position ≤ last.stop then last.wordSpan? else none := by
  rw [wordAmong.eq_def]
  dsimp only
  by_cases hstop : last.stop < position
  · rw [if_pos hstop, if_neg (Nat.not_le.mpr hstop)]
  · rw [if_neg hstop, if_pos h, if_pos (Nat.not_lt.mp hstop)]

/-- At the beginning of a token that token is asked for, or else the one that ends there. -/
theorem wordAmong_of_start (h : last.start = position) (hpos : last.start < last.stop) :
    wordAmong position (last :: earlier) =
      match earlier with
      | [] => last.wordSpan?
      | t :: _ =>
        if last.canComplete && (t.stop < position || !t.canComplete) then some (.ofToken last)
        else if t.stop = position then t.wordSpan? else none := by
  rw [wordAmong.eq_def]
  dsimp only
  rw [if_neg (by omega), if_neg (by omega)]
  cases earlier with
  | nil => simp [h, Token.wordSpan?]
  | cons t rest => simp [h]

/-- A token that begins no later than a position is asked for the word there, if those before it end
before the position. -/
theorem find?_isWordAt_cons (hle : last.start ≤ position)
    (hbefore : ∀ t ∈ earlier, t.stop < position) :
    ((last :: earlier).find? (·.isWordAt position)).map .ofToken =
      if position ≤ last.stop then last.wordSpan? else none := by
  have hnone : earlier.find? (·.isWordAt position) = none := by
    rw [List.find?_eq_none]
    intro t ht hword
    have hstop := hbefore t ht
    have hreach := (Token.isWordAt_iff.mp hword).2.2
    omega
  have hword : last.isWordAt position = (decide (position ≤ last.stop) && last.canComplete) := by
    rw [Bool.eq_iff_iff, Token.isWordAt_iff, Bool.and_eq_true, decide_eq_true_eq]
    exact ⟨fun h => ⟨h.2.2, h.1⟩, fun h => ⟨h.2, hle, h.1⟩⟩
  rw [List.find?_cons, hnone, hword, Token.wordSpan?]
  by_cases hreach : position ≤ last.stop
  · cases last.canComplete <;> simp [hreach]
  · simp [hreach]

/-- Among tokens that begin no later than a position, nearest first, the cases come down to the token
that is the word there. -/
theorem wordAmong_eq (hordered : tokens.Pairwise fun t u => u.stop ≤ t.start)
    (hapart : tokens.Pairwise fun t u =>
      t.canComplete = true → u.canComplete = true → u.stop < t.start)
    (hpos : ∀ t ∈ tokens, t.start < t.stop) (hle : ∀ t ∈ tokens, t.start ≤ position) :
    wordAmong position tokens = (tokens.find? (·.isWordAt position)).map .ofToken := by
  cases tokens with
  | nil => rfl
  | cons last earlier =>
    obtain ⟨hbefore, hordered⟩ := List.pairwise_cons.mp hordered
    have hlong := hpos last (List.mem_cons_self ..)
    rcases (hle last (List.mem_cons_self ..)).lt_or_eq with hlt | hstart
    · rw [wordAmong_of_lt hlt,
        find?_isWordAt_cons hlt.le fun t ht => (hbefore t ht).trans_lt hlt]
    · rw [wordAmong_of_start hstart hlong, List.find?_cons]
      cases hcan : last.canComplete with
      | true =>
        have hword : last.isWordAt position = true :=
          Token.isWordAt_iff.mpr ⟨hcan, hstart.le, hstart ▸ hlong.le⟩
        rw [hword]
        cases earlier with
        | nil => simp [Token.wordSpan?, hcan]
        | cons t rest =>
          have hgap := (List.pairwise_cons.mp hapart).1 t (List.mem_cons_self ..) hcan
          rw [hstart] at hgap
          cases htcan : t.canComplete with
          | true => simp [hgap htcan]
          | false => simp [htcan]
      | false =>
        have hword : last.isWordAt position = false := by
          simp [Token.isWordAt, hcan]
        rw [hword]
        cases earlier with
        | nil => simp [Token.wordSpan?, hcan]
        | cons t rest =>
          have htlong := hpos t (by simp)
          have htstop := hbefore t (List.mem_cons_self ..)
          have hrest : ∀ u ∈ rest, u.stop < position := by
            intro u hu
            have hustop := (List.pairwise_cons.mp hordered).1 u hu
            omega
          have htouch : t.stop = position ↔ position ≤ t.stop := by omega
          dsimp only
          rw [find?_isWordAt_cons (by omega) hrest, if_neg (by simp)]
          simp only [htouch]

end Among

namespace Lexer

variable (last : Option Token) (offset : Nat) (cs : List Char)

/-- At most one token of a text is the word at a position. -/
theorem length_filter_isWordAt_le_one (position : Int) :
    ((tokensFrom last offset cs).filter (·.isWordAt position)).length ≤ 1 := by
  have hapart := (pairwise_canComplete last offset cs).filter (·.isWordAt position)
  cases hwords : (tokensFrom last offset cs).filter (·.isWordAt position) with
  | nil => exact Nat.zero_le 1
  | cons t rest =>
    cases rest with
    | nil => exact le_rfl
    | cons u rest =>
      have hword : ∀ v ∈ t :: u :: rest, v.isWordAt position = true := by
        intro v hv
        rw [← hwords] at hv
        exact (List.mem_filter.mp hv).2
      have ht := hword t (by simp)
      have hu := hword u (by simp)
      rw [Token.isWordAt, decide_eq_true_eq] at ht hu
      rw [hwords] at hapart
      have hgap := (List.pairwise_cons.mp hapart).1 u (by simp) ht.1 hu.1
      omega

/-- The word that the cases find among the tokens of a text is the one that touches the position. -/
theorem wordAmong_tokensFrom_eq (position : Nat) :
    wordAmong position ((tokensFrom last offset cs).filter (·.start ≤ position)).reverse =
      ((tokensFrom last offset cs).filter (·.isWordAt position)).head?.map .ofToken := by
  have hkept : ((tokensFrom last offset cs).filter (·.start ≤ position)).filter
      (·.isWordAt position) = (tokensFrom last offset cs).filter (·.isWordAt position) := by
    rw [List.filter_filter]
    refine List.filter_congr fun t _ => ?_
    rw [Bool.eq_iff_iff, Bool.and_eq_true, decide_eq_true_eq]
    exact and_iff_left_of_imp fun hword => (Token.isWordAt_iff.mp hword).2.1
  rw [wordAmong_eq]
  · rw [← List.head?_filter, List.filter_reverse, hkept]
    have hone := length_filter_isWordAt_le_one last offset cs position
    generalize (tokensFrom last offset cs).filter (·.isWordAt position) = words at hone ⊢
    match words, hone with
    | [], _ => rfl
    | [_], _ => rfl
  · exact List.pairwise_reverse.mpr ((pairwise_tokensFrom last offset cs).filter _)
  · refine List.pairwise_reverse.mpr (((pairwise_canComplete last offset cs).filter _).imp ?_)
    exact fun hgap hcu hct => hgap hct hcu
  · intro t ht
    exact start_lt_stop_of_mem (List.mem_filter.mp (List.mem_reverse.mp ht)).1
  · intro t ht
    simpa using (List.mem_filter.mp (List.mem_reverse.mp ht)).2

end Lexer

namespace Document

/-- The word at a place of a line is looked for among the tokens of the line that begin no later. -/
theorem LinesAround.wordSpan?_eq {d : Document} {place : Nat} {earlier later : List (List Char)}
    {before after : List Char} (h : d.LinesAround place earlier before after later) :
    d.wordSpan? place =
      wordAmong place ((Lexer.tokensFrom none (lengthOfLines earlier)
        (d.lineText earlier.length)).filter (·.start ≤ place)).reverse := by
  have hline := h.classifyLine_eq
  have hstop : d.lineStop earlier.length =
      lengthOfLines earlier + (d.lineText earlier.length).length := by
    rw [lineStop, h.lineStart_eq]
  rw [wordSpan?, if_pos ⟨Int.natCast_nonneg place, Int.ofNat_le.mpr h.le⟩]
  dsimp only
  rw [h.lineNumber_eq, Int.toNat_natCast, ← classifyLine, hline]
  congr 2
  apply List.filter_congr
  intro t ht
  have hlong := Lexer.start_lt_stop_of_mem ht
  have hend := Lexer.stop_le_of_mem ht
  rw [decide_eq_decide]
  split <;> omega

/-- The words of a position's line that touch the position. -/
def wordsAt (d : Document) (position : Int) : List Token :=
  (d.classifyLine (d.lineNumber position)).filter (·.isWordAt position)

/-- At most one word touches a position, and that is the word there; outside the document there is
none. -/
theorem wordSpan?_eq_touching (d : Document) (position : Int) :
    (d.wordsAt position).length ≤ 1 ∧
      d.wordSpan? position =
        if 0 ≤ position ∧ position ≤ d.length then (d.wordsAt position).head?.map .ofToken
        else none := by
  constructor
  · rw [wordsAt, classifyLine, classify, Lexer.tokens]
    exact Lexer.length_filter_isWordAt_le_one ..
  · split
    next hinside =>
      obtain ⟨place, rfl⟩ := Int.eq_ofNat_of_zero_le hinside.1
      obtain ⟨earlier, before, after, later, h⟩ := exists_linesAround (Int.ofNat_le.mp hinside.2)
      rw [h.wordSpan?_eq, Lexer.wordAmong_tokensFrom_eq, wordsAt, h.lineNumber_eq,
        h.classifyLine_eq]
    next hinside => rw [wordSpan?, if_neg hinside]

/-- Between two words and a point, each position has the word it touches, and none between blanks. -/
example :
    let d := ofString "ab.c  x
"
    [0, 2, 3, 4, 5, 6, 7, 8].map d.wordSpan? =
      [some ⟨0, 2⟩, some ⟨0, 2⟩, some ⟨3, 1⟩, some ⟨3, 1⟩, none, some ⟨6, 1⟩, some ⟨6, 1⟩, none] := by
  simp only
  cbv

end Document

end ModuleHints

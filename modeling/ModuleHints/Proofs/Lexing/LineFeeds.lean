import ModuleHints.Proofs.Lexing.Closing

/-!
# Line feeds in regular expressions

A regular expression ends before a line feed, inside a class or behind flags as well, and whether or
not it is closed. The one line feed that it goes on over is an escaped one: a backslash takes the
next character along whatever it is. So a literal stays on its line unless a backslash ends the
line.
-/

namespace ModuleHints.Lexer

section Rows

variable {cs : List Char}

theorem evenBackslashes_of_not_mem (h : '\\' ∉ cs) : EvenBackslashes cs := by
  cases cs using List.reverseRecOn with
  | nil => exact evenBackslashes_nil
  | append_singleton cs c =>
    rw [evenBackslashes_concat]
    rintro rfl
    simp at h

/-- An odd row has a backslash at its end. -/
theorem exists_concat_of_not_evenBackslashes (h : ¬EvenBackslashes cs) :
    ∃ before, cs = before ++ ['\\'] := by
  cases cs using List.reverseRecOn with
  | nil => exact absurd evenBackslashes_nil h
  | append_singleton cs c =>
    rw [evenBackslashes_concat, Classical.not_imp] at h
    exact ⟨cs, by rw [h.1]⟩

end Rows

/-- A reader that takes so many characters of a text goes on over the line feeds that are escaped,
and stops before any other. -/
def PassesEscaped (cs : List Char) (n : Nat) : Prop :=
  ∀ i ≤ n, cs[i]? = some '\n' → (i < n ↔ ¬EvenBackslashes (cs.take i))

section Reading

variable {a cs : List Char} {n : Nat}

/-- What is read behind a text that has an even row at its end, and escapes its own line feeds, may
be read together with it. -/
theorem PassesEscaped.append (h : PassesEscaped cs n) (ha : EvenBackslashes a)
    (hfeeds : ∀ i < a.length, a[i]? = some '\n' → ¬EvenBackslashes (a.take i)) :
    PassesEscaped (a ++ cs) (a.length + n) := by
  intro i hi hfeed
  rcases Nat.lt_or_ge i a.length with hlt | hge
  · rw [List.getElem?_append_left hlt] at hfeed
    rw [List.take_append_of_le_length hlt.le]
    exact iff_of_true (by omega) (hfeeds i hlt hfeed)
  · obtain ⟨j, rfl⟩ := Nat.exists_eq_add_of_le hge
    rw [List.getElem?_append_right hge, Nat.add_sub_cancel_left] at hfeed
    rw [List.take_length_add_append, evenBackslashes_append ha, Nat.add_lt_add_iff_left]
    exact h j (by omega) hfeed

/-- A character that is neither a backslash nor a line feed may be read before. -/
theorem PassesEscaped.cons (h : PassesEscaped cs n) {c : Char} (hescape : c ≠ '\\')
    (hfeed : c ≠ '\n') : PassesEscaped (c :: cs) (n + 1) := by
  rw [Nat.add_comm]
  refine h.append (a := [c]) (evenBackslashes_singleton hescape) fun i hi hc => ?_
  rw [List.length_singleton, Nat.lt_one_iff] at hi
  rw [hi, List.getElem?_cons_zero, Option.some.injEq] at hc
  exact absurd hc hfeed

theorem passesEscaped_of_not_mem (hescape : '\\' ∉ cs.take n) (hfeed : '\n' ∉ cs.take n) :
    PassesEscaped cs n := by
  intro i hi hchar
  rcases Nat.eq_or_lt_of_le hi with rfl | hlt
  · exact iff_of_false (Nat.lt_irrefl _) (not_not_intro (evenBackslashes_of_not_mem hescape))
  · refine absurd (List.mem_of_getElem? (i := i) ?_) hfeed
    rw [List.getElem?_take, if_pos hlt, hchar]

/-- Flags are read up to the next line feed at most. -/
theorem passesEscaped_flags (cs : List Char) :
    PassesEscaped cs (cs.takeWhile isIdentChar).length := by
  have hother : ∀ c, isIdentChar c = false → c ∉ cs.take (cs.takeWhile isIdentChar).length := by
    intro c hc hmem
    rw [take_length_takeWhile] at hmem
    rw [List.mem_takeWhile_imp hmem] at hc
    cases hc
  exact passesEscaped_of_not_mem (hother _ (by decide)) (hother _ (by decide))

/-- A regular expression goes on over escaped line feeds, and over no others. -/
theorem passesEscaped_regexpTail (inClass : Bool) (cs : List Char) :
    PassesEscaped cs (regexpTail inClass cs) := by
  induction cs using escape_induction generalizing inClass with
  | nil =>
    intro i _ hfeed
    simp at hfeed
  | lone =>
    intro i _ hfeed
    cases i <;> simp at hfeed
  | pair c rest ih =>
    rw [regexpTail, Nat.add_comm]
    refine (ih inClass).append (a := ['\\', c]) (evenBackslashes_pair c) fun i hi hfeed => ?_
    have hodd : ¬EvenBackslashes ['\\'] := by decide
    obtain rfl | rfl := Nat.le_one_iff_eq_zero_or_eq_one.mp (Nat.le_of_lt_succ hi)
    · simp at hfeed
    · exact hodd
  | plain c rest hc ih =>
    rw [regexpTail_cons _ _ hc]
    split
    next => exact passesEscaped_of_not_mem (by simp) (by simp)
    next hfeed =>
      split
      · exact (ih true).cons hc hfeed
      · split
        · exact (ih false).cons hc hfeed
        · split
          · exact (passesEscaped_flags rest).cons hc hfeed
          · exact (ih inClass).cons hc hfeed

/-- A line feed that such a reader takes has a backslash before it. -/
theorem PassesEscaped.infix_of_mem (h : PassesEscaped cs n) (hmem : '\n' ∈ cs.take n) :
    ['\\', '\n'] <:+: cs.take n := by
  obtain ⟨i, hi⟩ := List.mem_iff_getElem?.mp hmem
  rw [List.getElem?_take] at hi
  split at hi
  next hlt =>
    obtain ⟨before, hbefore⟩ := exists_concat_of_not_evenBackslashes ((h i hlt.le hi).mp hlt)
    have htake : cs.take (i + 1) = before ++ ['\\', '\n'] := by
      rw [List.take_add_one, hi, hbefore]
      simp
    have hprefix : cs.take (i + 1) <+: cs.take n := List.take_prefix_take_left hlt
    rw [htake] at hprefix
    exact (List.suffix_append ..).isInfix.trans hprefix.isInfix
  next => cases hi

end Reading

/-- A literal of a source that is read up to a place goes on over the line feeds that are escaped,
and stops before any other. -/
structure StopsAtFeed (source : List Char) (beyond : Nat) (t : Token) : Prop where
  /-- A line feed in the literal is escaped. -/
  escaped : ∀ place < t.stop, ¬MarkAfter source t.start ['\n'] place
  /-- A line feed right behind the literal is not. -/
  not_escaped : t.stop < beyond → source[t.stop]? = some '\n' →
    MarkAfter source t.start ['\n'] t.stop
  /-- There is a line feed in the literal exactly if there is one behind a backslash. -/
  feed_iff : '\n' ∈ t.text.toList ↔ ['\\', '\n'] <:+: t.text.toList

/-- A literal whose reader goes on over escaped line feeds alone does so in the source. -/
theorem PassesEscaped.stopsAtFeed {source rest : List Char} {beyond n : Nat} {c : Char} {t : Token}
    (h : PassesEscaped rest n) (hc : c ≠ '\n')
    (hdrop : (source.take beyond).drop t.start = c :: rest)
    (htext : t.text.toList = c :: rest.take n) (hstop : t.stop = t.start + (n + 1))
    (hle : t.stop ≤ beyond) : StopsAtFeed source beyond t := by
  have hrest : (source.take beyond).drop (t.start + 1) = rest := by
    rw [← List.drop_drop, hdrop, List.drop_one, List.tail_cons]
  have hmark : ∀ i, MarkAt ['\n'] rest i ↔
      rest[i]? = some '\n' ∧ EvenBackslashes (rest.take i) := by
    simp [MarkAt]
  constructor
  case escaped =>
    intro place hlt hafter
    obtain ⟨i, rfl⟩ := Nat.exists_eq_add_of_le hafter.1
    rw [markAfter_iff hrest (by omega), hmark] at hafter
    exact (h i (by omega) hafter.1).mp (by omega) hafter.2
  case not_escaped =>
    intro hlt hfeed
    have hplace : t.stop = t.start + 1 + n := by omega
    rw [hplace] at hlt hfeed ⊢
    rw [getElem?_of_drop hrest hlt] at hfeed
    rw [markAfter_iff hrest hlt, hmark]
    refine ⟨hfeed, ?_⟩
    by_contra hodd
    exact Nat.lt_irrefl n ((h n le_rfl hfeed).mpr hodd)
  case feed_iff =>
    rw [htext]
    constructor
    · intro hmem
      have hmem : '\n' ∈ rest.take n := (List.mem_cons.mp hmem).resolve_left hc.symm
      exact (h.infix_of_mem hmem).trans (List.suffix_cons ..).isInfix
    · intro hinfix
      exact hinfix.subset (by simp)

/-- A regular expression of a range ends before a line feed, unless a backslash takes that along. -/
theorem tokenize_stopsAtFeed (source : List Char) (start : Int) (stop : Option Int) :
    ∀ t ∈ tokenize source start stop, t.kind = .regexp →
      StopsAtFeed source (stop.getD source.length).toNat t := by
  intro t ht hkind
  rw [tokenize] at ht
  have hle := (mem_tokens ht).2.1.trans (Nat.min_le_left ..)
  obtain ⟨regexp, c, rest, n, hshape, hdrop, htext, hstop⟩ := exists_shape_of_mem ht
  rw [hkind] at hshape
  cases hshape with
  | regexp hc =>
    have hfeed : c ≠ '\n' := by
      rw [hc]
      decide
    exact (passesEscaped_regexpTail false rest).stopsAtFeed hfeed hdrop htext hstop hle

/-- A regular expression that goes on over the line feed in its class, and ends before the one
behind it. -/
theorem tokenize_stopsAtFeed_in_class :
    let source := "/[\\\n]\n/ x".toList
    let t : Token := ⟨.regexp, "/[\\\n]", 0⟩
    t ∈ tokenize source 0 none ∧ t.kind = .regexp ∧ StopsAtFeed source 9 t := by
  intro source t
  have hall : tokenize source 0 none = [t, ⟨.operator, "/", 6⟩, ⟨.identifier, "x", 8⟩] := by
    simp only [source, t]
    cbv
  have ht : t ∈ tokenize source 0 none := by simp [hall]
  exact ⟨ht, rfl, tokenize_stopsAtFeed source 0 none t ht rfl⟩

/-- Not every regular expression stays on its line: this one has a backslash at the end of it. -/
theorem tokenize_regexp_over_feed :
    ¬∀ t ∈ tokenize "/a\\\nb/".toList 0 none, t.kind = .regexp → '\n' ∉ t.text.toList := by
  have hall : tokenize "/a\\\nb/".toList 0 none = [⟨.regexp, "/a\\\nb/", 0⟩] := by cbv
  rw [hall]
  decide

end ModuleHints.Lexer

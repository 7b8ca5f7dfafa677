import Mathlib
import ModuleHints.Proofs.Lexing.Shapes

/-!
# Where a literal ends

Strings and templates are read from the left, each backslash together with the character after it.
Where they end can be told from the right as well: a mark ends the literal if an even number of
backslashes stands in a row just before it. Reading in pairs and counting in rows agree because a
pair never leaves a row of odd length behind.
-/

namespace ModuleHints.Lexer

/-- Whether an even number of backslashes stands in a row at the end of a text. -/
def EvenBackslashes (cs : List Char) : Prop := Even (cs.rtakeWhile (· == '\\')).length

instance (cs : List Char) : Decidable (EvenBackslashes cs) :=
  inferInstanceAs (Decidable (Even (cs.rtakeWhile (· == '\\')).length))

section Rows

variable {a cs : List Char} {c : Char}

theorem evenBackslashes_nil : EvenBackslashes [] := by
  simp [EvenBackslashes]

/-- One more backslash makes the number odd or even again, and any other character ends the row. -/
theorem evenBackslashes_concat :
    EvenBackslashes (cs ++ [c]) ↔ (c = '\\' → ¬EvenBackslashes cs) := by
  by_cases hc : c = '\\'
  · simp [EvenBackslashes, hc, Nat.even_add_one]
  · simp [EvenBackslashes, hc]

/-- What has an even row at its end changes nothing about rows that come after it. -/
theorem evenBackslashes_append (ha : EvenBackslashes a) :
    EvenBackslashes (a ++ cs) ↔ EvenBackslashes cs := by
  induction cs using List.reverseRecOn with
  | nil => simpa [evenBackslashes_nil] using ha
  | append_singleton cs c ih =>
    rw [← List.append_assoc, evenBackslashes_concat, evenBackslashes_concat, ih]

theorem evenBackslashes_pair (c : Char) : EvenBackslashes ['\\', c] := by
  rw [← List.singleton_append, evenBackslashes_concat]
  exact fun _ => by decide

theorem evenBackslashes_singleton (hc : c ≠ '\\') : EvenBackslashes [c] := by
  rw [← List.nil_append [c], evenBackslashes_concat]
  exact fun h => absurd h hc

end Rows

/-- One of some marks stands at a place of a text, behind an even number of backslashes in a row. -/
def MarkAt (marks cs : List Char) (i : Nat) : Prop :=
  (∃ c ∈ marks, cs[i]? = some c) ∧ EvenBackslashes (cs.take i)

/-- A literal takes so many characters of the text behind its opening quote: up to the first mark,
and with that if it is the quote again, or else all of them. -/
inductive Reads (quote : Char) (marks cs : List Char) : Nat → Prop where
  /-- The first mark is the quote. -/
  | closed {i : Nat} : MarkAt marks cs i → (∀ k < i, ¬MarkAt marks cs k) → cs[i]? = some quote →
    Reads quote marks cs (i + 1)
  /-- The first mark is another one. -/
  | broken {i : Nat} : MarkAt marks cs i → (∀ k < i, ¬MarkAt marks cs k) → cs[i]? ≠ some quote →
    Reads quote marks cs i
  /-- There is no mark. -/
  | unfinished : (∀ k, ¬MarkAt marks cs k) → Reads quote marks cs cs.length

section Reading

variable {quote : Char} {marks a cs : List Char} {i n : Nat}

/-- Behind a text that has an even row at its end the marks are the same. -/
theorem markAt_append (ha : EvenBackslashes a) :
    MarkAt marks (a ++ cs) (a.length + i) ↔ MarkAt marks cs i := by
  rw [MarkAt, MarkAt, List.getElem?_append_right (Nat.le_add_right ..), Nat.add_sub_cancel_left,
    List.take_length_add_append, evenBackslashes_append ha]

/-- A literal goes on over a text without marks that has an even row at its end. -/
theorem Reads.append (h : Reads quote marks cs n) (ha : EvenBackslashes a)
    (hnone : ∀ k < a.length, ¬MarkAt marks (a ++ cs) k) :
    Reads quote marks (a ++ cs) (a.length + n) := by
  have hbefore : ∀ i, (∀ k < i, ¬MarkAt marks cs k) →
      ∀ k < a.length + i, ¬MarkAt marks (a ++ cs) k := by
    intro i hi k hk
    rcases Nat.lt_or_ge k a.length with hlt | hge
    · exact hnone k hlt
    · obtain ⟨j, rfl⟩ := Nat.exists_eq_add_of_le hge
      rw [markAt_append ha]
      exact hi j (by omega)
  have hchar : ∀ i, (a ++ cs)[a.length + i]? = cs[i]? := by
    intro i
    rw [List.getElem?_append_right (Nat.le_add_right ..), Nat.add_sub_cancel_left]
  cases h with
  | @closed i hmark hfirst hquote =>
    exact .closed ((markAt_append ha).mpr hmark) (hbefore i hfirst) ((hchar i).trans hquote)
  | broken hmark hfirst hquote =>
    exact .broken ((markAt_append ha).mpr hmark) (hbefore n hfirst) (by rwa [hchar])
  | unfinished hall =>
    rw [← List.length_append]
    exact .unfinished fun k => hbefore (k + 1) (fun j _ => hall j) k (by omega)

/-- A reader that takes escapes in pairs ends at the first mark with an even number of backslashes
in a row before it. -/
theorem reads_of_pairs {tail : List Char → Nat} (hescape : '\\' ∉ marks) (hnil : tail [] = 0)
    (hlone : tail ['\\'] = 1) (hpair : ∀ c rest, tail ('\\' :: c :: rest) = tail rest + 2)
    (hplain : ∀ c rest, c ≠ '\\' → tail (c :: rest) =
      if c ∈ marks then if c = quote then 1 else 0 else tail rest + 1) (cs : List Char) :
    Reads quote marks cs (tail cs) := by
  have hlead : ∀ rest, ¬MarkAt marks ('\\' :: rest) 0 := by
    rintro rest ⟨⟨c, hc, hfirst⟩, -⟩
    cases hfirst
    exact hescape hc
  induction cs using escape_induction with
  | nil =>
    rw [hnil]
    exact .unfinished fun k => by simp [MarkAt]
  | lone =>
    rw [hlone]
    refine .unfinished fun k => ?_
    cases k with
    | zero => exact hlead []
    | succ k => simp [MarkAt]
  | pair c rest ih =>
    rw [hpair, Nat.add_comm]
    refine ih.append (a := ['\\', c]) (evenBackslashes_pair c) fun k hk => ?_
    have hodd : ¬EvenBackslashes ['\\'] := by decide
    match k, hk with
    | 0, _ => exact hlead _
    | 1, _ => exact fun hmark => hodd hmark.2
  | plain c rest hc ih =>
    have hmark : MarkAt marks (c :: rest) 0 ↔ c ∈ marks := by
      simp [MarkAt, evenBackslashes_nil]
    rw [hplain c rest hc]
    split
    next hmem =>
      split
      next hquote =>
        rw [hquote] at hmark hmem ⊢
        exact .closed (hmark.mpr hmem) (fun k hk => absurd hk k.not_lt_zero) rfl
      next hquote =>
        exact .broken (hmark.mpr hmem) (fun k hk => absurd hk k.not_lt_zero) (by simpa using hquote)
    next hmem =>
      rw [Nat.add_comm]
      refine ih.append (a := [c]) (evenBackslashes_singleton hc) fun k hk => ?_
      rw [List.length_singleton, Nat.lt_one_iff] at hk
      rw [hk]
      exact fun h => hmem (hmark.mp h)

/-- A string ends with its quotation mark or before a line feed. -/
theorem reads_stringTail (q : Quote) (cs : List Char) :
    Reads q.char [q.char, '\n'] cs (stringTail q.char cs) := by
  have hfeed : q.char ≠ '\n' := by cases q <;> decide
  apply reads_of_pairs
  · cases q <;> decide
  · rfl
  · rfl
  · exact fun c rest => rfl
  · intro c rest hc
    rw [stringTail_cons _ _ hc]
    by_cases hquote : c = q.char
    · simp [hquote, hfeed]
    · by_cases hline : c = '\n'
      · simp [hline, hfeed.symm]
      · simp [hquote, hline]

/-- A template ends with its backtick. -/
theorem reads_templateTail (cs : List Char) :
    Reads '\x60' ['\x60'] cs (templateTail cs) := by
  apply reads_of_pairs
  · decide
  · rfl
  · rfl
  · exact fun c rest => rfl
  · intro c rest hc
    rw [templateTail_cons _ hc]
    by_cases hquote : c = '\x60' <;> simp [hquote]

end Reading

/-- Nothing but a backtick begins a template. -/
theorem lexeme_of_template {regexp : Bool} {c : Char} {rest : List Char}
    (h : (lexeme regexp c rest).1 = .template) :
    c = '\x60' ∧ (lexeme regexp c rest).2 = templateTail rest := by
  have hshape := shape_lexeme regexp rest c
  rw [h] at hshape
  generalize (lexeme regexp c rest).2 = n at hshape ⊢
  cases hshape with
  | template hbacktick => exact ⟨hbacktick, rfl⟩

/-- One of some marks stands behind the beginning of a literal, and an even number of backslashes in
a row stands between the two just before it. -/
def MarkAfter (source : List Char) (start : Nat) (marks : List Char) (place : Nat) : Prop :=
  start < place ∧ (∃ c ∈ marks, source[place]? = some c) ∧
    EvenBackslashes ((source.take place).drop (start + 1))

/-- A literal that is read up to a place ends at the first mark before that place, with the mark if
it is the quote, and at the place itself if there is no mark. -/
inductive EndsByParity (source marks : List Char) (quote : Char) (start beyond : Nat) :
    Nat → Prop where
  /-- The first mark is the quote, and belongs to the literal. -/
  | closed {place : Nat} : place < beyond → MarkAfter source start marks place →
    (∀ earlier < place, ¬MarkAfter source start marks earlier) → source[place]? = some quote →
    EndsByParity source marks quote start beyond (place + 1)
  /-- The first mark is another one, and does not. -/
  | broken {place : Nat} : place < beyond → MarkAfter source start marks place →
    (∀ earlier < place, ¬MarkAfter source start marks earlier) → source[place]? ≠ some quote →
    EndsByParity source marks quote start beyond place
  /-- There is no mark. -/
  | unfinished : (∀ place < beyond, ¬MarkAfter source start marks place) →
    EndsByParity source marks quote start beyond beyond

section Source

variable {source marks rest : List Char} {first beyond n i : Nat} {quote : Char}

theorem getElem?_of_drop (hrest : (source.take beyond).drop (first + 1) = rest)
    (hi : first + 1 + i < beyond) : source[first + 1 + i]? = rest[i]? := by
  rw [← hrest, List.getElem?_drop, List.getElem?_take, if_pos hi]

/-- The marks behind the beginning of a literal are those of the text behind its first character. -/
theorem markAfter_iff (hrest : (source.take beyond).drop (first + 1) = rest)
    (hi : first + 1 + i < beyond) :
    MarkAfter source first marks (first + 1 + i) ↔ MarkAt marks rest i := by
  have htake : (source.take (first + 1 + i)).drop (first + 1) = rest.take i := by
    rw [← hrest, List.take_drop, List.take_take, Nat.min_eq_left hi.le]
  rw [MarkAfter, MarkAt, getElem?_of_drop hrest hi, htake]
  exact and_iff_right (by omega)

/-- Where a literal ends in a source is read off the text behind its first character. -/
theorem Reads.endsByParity (h : Reads quote marks rest n)
    (hrest : (source.take beyond).drop (first + 1) = rest)
    (hbeyond : first + 1 + rest.length = beyond) :
    EndsByParity source marks quote first beyond (first + 1 + n) := by
  have hnone : ∀ i ≤ rest.length, (∀ k < i, ¬MarkAt marks rest k) →
      ∀ place < first + 1 + i, ¬MarkAfter source first marks place := by
    intro i hi hall place hlt hmark
    obtain ⟨k, rfl⟩ := Nat.exists_eq_add_of_le hmark.1
    exact hall k (by omega) ((markAfter_iff hrest (by omega)).mp hmark)
  have hlength : ∀ i, MarkAt marks rest i → i < rest.length := by
    rintro i ⟨⟨c, -, hc⟩, -⟩
    exact (List.getElem?_eq_some_iff.mp hc).1
  cases h with
  | @closed i hmark hfirst hquote =>
    have hi := hlength i hmark
    rw [← Nat.add_assoc]
    exact .closed (by omega) ((markAfter_iff hrest (by omega)).mpr hmark) (hnone i hi.le hfirst)
      ((getElem?_of_drop hrest (by omega)).trans hquote)
  | broken hmark hfirst hquote =>
    have hi := hlength n hmark
    exact .broken (by omega) ((markAfter_iff hrest (by omega)).mpr hmark) (hnone n hi.le hfirst)
      (by rwa [getElem?_of_drop hrest (by omega)])
  | unfinished hall =>
    have hend := hnone rest.length le_rfl fun k _ => hall k
    rw [hbeyond] at hend ⊢
    exact .unfinished hend

end Source

/-- Where a string or a template of a range ends is told by the backslashes in a row before each
mark: a string ends with its quotation mark or before a line feed, a template with its backtick, and each
of them at the end of the range if no such mark has an even number of backslashes before it. -/
theorem tokenize_ends_by_parity (source : List Char) (start : Int) (stop : Option Int) :
    ∀ t ∈ tokenize source start stop,
      (t.kind = .string → ∃ q : Quote, source[t.start]? = some q.char ∧
        EndsByParity source [q.char, '\n'] q.char t.start
          (min (stop.getD source.length).toNat source.length) t.stop) ∧
      (t.kind = .template → source[t.start]? = some '\x60' ∧
        EndsByParity source ['\x60'] '\x60' t.start
          (min (stop.getD source.length).toNat source.length) t.stop) := by
  intro t ht
  rw [tokenize, tokens] at ht
  generalize (stop.getD source.length).toNat = stop at ht ⊢
  obtain ⟨regexp, before, c, rest, hcs, -, rfl⟩ := exists_tokenAt_of_mem ht
  rw [start_tokenAt, stop_tokenAt]
  generalize hplace : start.toNat + before.length = first
  have hlength := congrArg List.length hcs
  rw [List.length_drop, List.length_take, List.length_append, List.length_cons] at hlength
  have hfirst : source[first]? = some c := by
    have hchar : (source.take stop)[first]? = some c := by
      rw [← hplace, ← List.getElem?_drop, hcs, List.getElem?_append_right le_rfl, Nat.sub_self,
        List.getElem?_cons_zero]
    rwa [List.getElem?_take, if_pos (by omega)] at hchar
  have hrest : (source.take (min stop source.length)).drop (first + 1) = rest := by
    rw [← List.take_take, List.take_length, ← hplace, Nat.add_assoc, ← List.drop_drop, hcs,
      ← List.drop_drop, List.drop_left, List.drop_one, List.tail_cons]
  have hbeyond : first + 1 + rest.length = min stop source.length := by omega
  constructor
  · intro hkind
    obtain ⟨q, rfl⟩ := exists_quote_of_kind hkind
    rw [lexeme_quote]
    exact ⟨q, hfirst, (reads_stringTail q rest).endsByParity hrest hbeyond⟩
  · intro hkind
    obtain ⟨rfl, htail⟩ := lexeme_of_template hkind
    rw [htail]
    exact ⟨hfirst, (reads_templateTail rest).endsByParity hrest hbeyond⟩

/-- A string that goes on over an escaped line feed, and ends behind an escaped backslash. -/
theorem tokenize_ends_by_parity_over_line_feed :
    let source := "f('a\\\nb\\\\' + c".toList
    let t : Token := ⟨.string, "'a\\\nb\\\\'", 2⟩
    t ∈ tokenize source 0 (some 11) ∧ t.kind = .string ∧
      ∃ q : Quote, source[t.start]? = some q.char ∧
        EndsByParity source [q.char, '\n'] q.char t.start 11 t.stop := by
  intro source t
  have hall : tokenize source 0 (some 11) = [⟨.identifier, "f", 0⟩, ⟨.operator, "(", 1⟩, t] := by
    simp only [source, t]
    cbv
  have ht : t ∈ tokenize source 0 (some 11) := by simp [hall]
  exact ⟨ht, rfl, (tokenize_ends_by_parity source 0 (some 11) t ht).1 rfl⟩

end ModuleHints.Lexer

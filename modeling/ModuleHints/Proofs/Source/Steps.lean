import ModuleHints.Proofs.Lexing.Tiling
import ModuleHints.Proofs.Source.Walk

/-!
# A scan, token by token

Behind the first token that a scan sees come the tokens that a scan from its beginning sees, on its
own line or on an earlier one. Between the end of the token and the place where the scan began stand
only blank characters, line breaks among them. So the tokens of a scan and what separates them make
up all the text before its place.
-/

namespace ModuleHints

open Unicode

/-- What a line break takes off a line is blank. -/
theorem exists_withoutReturn_append (line : List Char) :
    ∃ blanks, line = withoutReturn line ++ blanks ∧ blanks.all isBlank = true := by
  rcases withoutReturn_cases line with hline | hline
  · exact ⟨[], by rw [List.append_nil, ← hline], rfl⟩
  · exact ⟨['\r'], hline, by decide⟩

/-- A text of several lines has them one after another. -/
theorem exists_append_of_splitLines_concat {cs line last : List Char} {earlier : List (List Char)}
    (h : splitLines cs = earlier ++ [line] ++ [last]) :
    ∃ head, cs = head ++ line ++ '\n' :: last ∧ head.length = lengthOfLines earlier := by
  rw [List.append_assoc, List.singleton_append] at h
  obtain ⟨head, tail, rfl, hhead, htail⟩ := exists_append_of_splitLines_cons h
  obtain ⟨rest, rfl, hrest⟩ := exists_cons_of_splitLines htail (List.cons_ne_nil last [])
  obtain ⟨before, rfl, hbefore⟩ := exists_append_of_splitLines hhead
  have hone : splitLines rest = [] ++ [last] := hrest
  obtain ⟨none, rfl, hnone⟩ := exists_append_of_splitLines hone
  cases List.eq_nil_of_length_eq_zero hnone
  refine ⟨before, ?_, hbefore⟩
  simp

/-- Two texts that end with the same kind of characters behind others are parted alike. -/
theorem append_inj_of_all {α : Type} {p : α → Bool} {a b u v : List α} (h : a ++ u = b ++ v)
    (hu : u.all p = true) (hv : v.all p = true) (ha : ∀ x ∈ a.getLast?, p x = false)
    (hb : ∀ x ∈ b.getLast?, p x = false) : a = b ∧ u = v := by
  have hnil : ∀ {c d e : List α}, (c ++ d).all p = true → (∀ x ∈ (e ++ c).getLast?, p x = false) →
      c = [] := by
    intro c d e hall hlast
    rcases List.eq_nil_or_concat' c with rfl | ⟨c, x, rfl⟩
    · rfl
    · have hx := hlast x (by rw [← List.append_assoc, List.getLast?_concat]; rfl)
      simp [hx] at hall
  rcases List.append_eq_append_iff.mp h with ⟨c, rfl, rfl⟩ | ⟨c, rfl, rfl⟩
  · cases hnil hu hb
    simp
  · cases hnil hv ha
    simp

namespace Document

/-- A token is the first one that a scan from a place sees: the scan goes on from the beginning of the
token, and between its end and the place all is blank. -/
structure LastBefore (d : Document) (place : Nat) (t : Token) (blanks : List Char) : Prop where
  /-- The scan goes on from the beginning of the token. -/
  scan_eq : d.scanBackward place = t :: d.scanBackward t.start
  /-- The token and the blank characters behind it come before the place. -/
  take_eq : d.chars.take place = d.chars.take t.start ++ t.text.toList ++ blanks
  /-- What stands between the token and the place is blank. -/
  blank : blanks.all isBlank = true

variable {d : Document} {place : Nat} {t : Token} {blanks : List Char}

namespace LinesAround

variable {earlier later : List (List Char)} {before after : List Char}

/-- The last token of the part of a line before a place is the first one that a scan sees. -/
theorem exists_lastBefore (h : d.LinesAround place earlier before after later) {tokens : List Token}
    (htokens : Lexer.tokensFrom none (lengthOfLines earlier) before = tokens ++ [t]) :
    ∃ blanks, d.LastBefore place t blanks := by
  have ht : t ∈ Lexer.tokensFrom none (lengthOfLines earlier) before :=
    htokens ▸ List.mem_append_right _ (List.mem_singleton_self t)
  have hpos := Lexer.start_lt_stop_of_mem ht
  have hstop := Lexer.stop_le_of_mem ht
  have hplace := h.place_eq
  obtain ⟨n, hn⟩ := Nat.exists_eq_add_of_le (Lexer.le_start_of_mem ht)
  obtain ⟨blanks, htext, hblank⟩ := Lexer.exists_append_of_tokensFrom_concat htokens
  have hfirst := Lexer.tokensFrom_take_start htokens
  rw [hn, Nat.add_sub_cancel_left] at htext hfirst
  have hstart : d.LinesAround t.start earlier (before.take n) (before.drop n ++ after) later := by
    have hcut := h.at_place (n := n) (by rw [List.length_append]; omega)
    rwa [← hn, List.take_append_of_le_length (by omega),
      List.drop_append_of_le_length (by omega)] at hcut
  obtain ⟨head, hhead, hlen⟩ := exists_append_of_splitLines h.before_eq
  have hbefore : d.chars.take t.start = head ++ before.take n := by
    have hle : t.start ≤ place := by omega
    rw [← Nat.min_eq_left hle, ← List.take_take, hhead, hn, ← hlen, List.take_length_add_append]
  refine ⟨blanks, ?_, ?_, hblank⟩
  · rw [h.scanBackward_eq, hstart.scanBackward_eq, htokens, hfirst, List.reverse_append,
      List.reverse_singleton, List.append_assoc, List.singleton_append]
  · rw [hhead, hbefore]
    conv_lhs => rw [htext]
    simp only [List.append_assoc]

/-- A place whose line has no token before it sees what the end of the line above sees. -/
theorem exists_lineAbove {line : List Char}
    (h : d.LinesAround place (earlier ++ [line]) before after later)
    (hnone : Lexer.tokensFrom none (lengthOfLines (earlier ++ [line])) before = []) :
    ∃ above blanks, above < place ∧ d.scanBackward place = d.scanBackward above ∧
      d.chars.take place = d.chars.take above ++ blanks ∧ blanks.all isBlank = true := by
  have hwhole := h.lines_eq
  rw [List.append_assoc, List.singleton_append] at hwhole
  have hprefix := withoutReturn_prefix line
  have habove := (linesAround_lineStart hwhole).at_place (n := (withoutReturn line).length)
    hprefix.length_le
  rw [List.nil_append, ← List.prefix_iff_eq_take.mp hprefix] at habove
  obtain ⟨ending, hline, hending⟩ := exists_withoutReturn_append line
  obtain ⟨head, hhead, hlen⟩ := exists_append_of_splitLines_concat h.before_eq
  have hplace := h.place_eq
  have hlength := congrArg List.length hline
  rw [lengthOfLines_append, lengthOfLines, lengthOfLines] at hplace
  rw [List.length_append] at hlength
  have hlt : lengthOfLines earlier + (withoutReturn line).length < place := by omega
  refine ⟨_, ending ++ '\n' :: before, hlt, ?_, ?_, ?_⟩
  · rw [h.scanBackward_eq, habove.scanBackward_eq, hnone, endedTokens_append_singleton,
      List.reverse_append, Nat.zero_add, List.reverse_nil, List.nil_append]
  · have htake : d.chars.take (lengthOfLines earlier + (withoutReturn line).length) =
        head ++ withoutReturn line := by
      rw [← Nat.min_eq_left hlt.le, ← List.take_take, hhead, ← hlen, List.append_assoc,
        List.take_length_add_append, List.take_append_of_le_length hprefix.length_le,
        ← List.prefix_iff_eq_take.mp hprefix]
    rw [htake, hhead]
    conv_lhs => rw [hline]
    simp only [List.append_assoc]
  · rw [List.all_append, hending, List.all_cons, Lexer.all_isBlank_of_tokensFrom_eq_nil hnone]
    decide

end LinesAround

/-- Before a place there is a token that a scan sees first, or else all is blank. -/
theorem lastBefore_cases (h : place ≤ d.length) :
    (d.scanBackward place = [] ∧ (d.chars.take place).all isBlank = true) ∨
      ∃ t blanks, d.LastBefore place t blanks := by
  induction place using Nat.strong_induction_on with
  | _ place ih =>
    obtain ⟨earlier, before, after, later, hlines⟩ := exists_linesAround h
    rcases List.eq_nil_or_concat'
      (Lexer.tokensFrom none (lengthOfLines earlier) before) with hnone | ⟨tokens, t, htokens⟩
    · rcases List.eq_nil_or_concat' earlier with rfl | ⟨earlier, line, rfl⟩
      · have hscan := hlines.scanBackward_eq
        obtain ⟨head, hhead, hlen⟩ := exists_append_of_splitLines hlines.before_eq
        cases List.eq_nil_of_length_eq_zero hlen
        rw [hnone] at hscan
        exact .inl ⟨hscan, hhead ▸ Lexer.all_isBlank_of_tokensFrom_eq_nil hnone⟩
      · obtain ⟨above, blanks, hlt, hscan, htake, hblank⟩ := hlines.exists_lineAbove hnone
        rw [hscan, htake, List.all_append, hblank, Bool.and_true]
        refine (ih above hlt (hlt.le.trans h)).imp_right ?_
        rintro ⟨t, blanks', hlast⟩
        refine ⟨t, blanks' ++ blanks, hscan.trans hlast.scan_eq, ?_, ?_⟩
        · rw [htake, hlast.take_eq, List.append_assoc]
        · rw [List.all_append, hlast.blank, hblank, Bool.and_true]
    · obtain ⟨blanks, hlast⟩ := hlines.exists_lastBefore htokens
      exact .inr ⟨t, blanks, hlast⟩

/-- A token that a scan sees first has a first character and ends before the place. -/
theorem LastBefore.stop_le (hlast : d.LastBefore place t blanks) (h : place ≤ d.length) :
    t.start < t.stop ∧ t.stop ≤ place :=
  stop_le_of_mem_scanBackward h (hlast.scan_eq ▸ List.mem_cons_self ..)

/-- A character before the place that is not blank stands before the end of the token. -/
theorem LastBefore.lt_stop (hlast : d.LastBefore place t blanks) (h : place ≤ d.length) {i : Nat}
    {c : Char} (hchar : (d.chars.take place)[i]? = some c) (hc : isBlank c = false) :
    i < t.stop := by
  obtain ⟨hpos, hstop⟩ := hlast.stop_le h
  have hlength : (d.chars.take t.start ++ t.text.toList).length = t.stop := by
    rw [List.length_append, List.length_take_of_le ((hpos.le.trans hstop).trans h),
      String.length_toList, Token.stop]
  by_contra hbehind
  rw [hlast.take_eq, List.getElem?_append_right (by omega)] at hchar
  have hblank := List.all_eq_true.mp hlast.blank c (List.mem_of_getElem? hchar)
  rw [hc] at hblank
  cases hblank

/-- A mark before the place that is not blank stands before the end of the token. -/
theorem LastBefore.length_lt_stop (hlast : d.LastBefore place t blanks) (h : place ≤ d.length)
    {init behind : List Char} {mark : Char} (htake : d.chars.take place = init ++ mark :: behind)
    (hmark : isBlank mark = false) : init.length < t.stop := by
  refine hlast.lt_stop h ?_ hmark
  rw [htake]
  simp

/-- Where the token does not end with a blank character, its last one is the last one before the
place that is not blank. -/
theorem LastBefore.eq_of_visible (hlast : d.LastBefore place t blanks) {text : List Char}
    {last : Char} (htext : t.text.toList = text ++ [last]) (hvisible : isBlank last = false)
    {init behind : List Char} {mark : Char} (htake : d.chars.take place = init ++ mark :: behind)
    (hmark : isBlank mark = false) (hbehind : behind.all isBlank = true) :
    init = d.chars.take t.start ++ text ∧ mark = last := by
  have hparts : (init ++ [mark]) ++ behind = (d.chars.take t.start ++ text ++ [last]) ++ blanks := by
    rw [List.append_assoc, List.singleton_append, ← htake, hlast.take_eq, htext]
    simp only [List.append_assoc]
  obtain ⟨hinit, -⟩ := append_inj_of_all hparts hbehind hlast.blank (by simpa using hmark)
    (by simpa using hvisible)
  obtain ⟨rfl, hsame⟩ := List.append_inj' hinit rfl
  exact ⟨rfl, List.singleton_inj.mp hsame⟩

/-- The first token that a scan sees is the last one before its place. -/
theorem exists_lastBefore {rest : List Token} (h : place ≤ d.length)
    (hscan : d.scanBackward place = t :: rest) :
    rest = d.scanBackward t.start ∧ ∃ blanks, d.LastBefore place t blanks := by
  rcases lastBefore_cases h with ⟨hnone, -⟩ | ⟨u, blanks, hlast⟩
  · rw [hnone] at hscan
    cases hscan
  · obtain ⟨rfl, hrest⟩ := List.cons.inj (hlast.scan_eq.symm.trans hscan)
    exact ⟨hrest.symm, blanks, hlast⟩

/-- A property of places holds where all before them is blank and passes from the beginning of a token
to the places behind it: then it holds of every place of the document. -/
@[elab_as_elim] theorem scan_induction {motive : (place : Nat) → place ≤ d.length → Prop}
    (blank : ∀ (place : Nat) (h : place ≤ d.length), d.scanBackward place = [] →
      (d.chars.take place).all isBlank = true → motive place h)
    (token : ∀ (place : Nat) (t : Token) (blanks : List Char) (h : place ≤ d.length)
      (hstart : t.start ≤ d.length), d.LastBefore place t blanks → t.start < t.stop →
      t.stop ≤ place → motive t.start hstart → motive place h)
    (place : Nat) (h : place ≤ d.length) : motive place h := by
  induction place using Nat.strong_induction_on with
  | _ place ih =>
    rcases lastBefore_cases h with ⟨hscan, hblank⟩ | ⟨t, blanks, hlast⟩
    · exact blank place h hscan hblank
    · obtain ⟨hpos, hstop⟩ := hlast.stop_le h
      have hstart : t.start ≤ d.length := (hpos.le.trans hstop).trans h
      exact token place t blanks h hstart hlast hpos hstop (ih t.start (by omega) hstart)

/-- The tokens of a scan lie apart, each before the one that is seen first. -/
theorem pairwise_scanBackward (h : place ≤ d.length) :
    (d.scanBackward place).Pairwise fun t u => u.start < t.start ∧ u.stop ≤ t.start := by
  induction place, h using scan_induction with
  | blank place h hscan hblank => simp [hscan]
  | token place t blanks h hstart hlast hpos hstop ih =>
    rw [hlast.scan_eq, List.pairwise_cons]
    refine ⟨fun u hu => ?_, ih⟩
    have hbefore := stop_le_of_mem_scanBackward hstart hu
    omega

theorem length_scanBackward_le (h : place ≤ d.length) : (d.scanBackward place).length ≤ place := by
  induction place, h using scan_induction with
  | blank place h hscan hblank => simp [hscan]
  | token place t blanks h hstart hlast hpos hstop ih =>
    rw [hlast.scan_eq, List.length_cons]
    omega

/-- A character before a place that is not blank belongs to one token of the scan, and to no other. -/
theorem existsUnique_has (h : place ≤ d.length) {i : Nat} {c : Char} (hi : i < place)
    (hchar : d.chars[i]? = some c) (hc : isBlank c = false) :
    ∃! t, t ∈ d.scanBackward place ∧ t.Has i := by
  induction place, h using scan_induction with
  | blank place h hscan hblank =>
    have hmem : c ∈ d.chars.take place :=
      List.mem_of_getElem? (i := i) (by rw [List.getElem?_take, if_pos hi, hchar])
    rw [List.all_eq_true.mp hblank c hmem] at hc
    cases hc
  | token place t blanks h hstart hlast hpos hstop ih =>
    rw [hlast.scan_eq]
    rcases Nat.lt_or_ge i t.start with hbefore | hinside
    · obtain ⟨u, ⟨hu, hhas⟩, hunique⟩ := ih hbefore
      refine ⟨u, ⟨List.mem_cons_of_mem _ hu, hhas⟩, ?_⟩
      rintro v ⟨hv, hvhas⟩
      rcases List.mem_cons.mp hv with rfl | hv
      · exact absurd hvhas.1 (Nat.not_le.mpr hbefore)
      · exact hunique v ⟨hv, hvhas⟩
    · have hlt : i < t.stop :=
        hlast.lt_stop h (by rw [List.getElem?_take, if_pos hi, hchar]) hc
      refine ⟨t, ⟨List.mem_cons_self .., hinside, hlt⟩, ?_⟩
      rintro v ⟨hv, hvhas⟩
      rcases List.mem_cons.mp hv with rfl | hv
      · rfl
      · have hstops := (stop_le_of_mem_scanBackward hstart hv).2
        exact absurd hvhas.2 (Nat.not_lt.mpr (hstops.trans hinside))

/-- No token of a scan holds a line feed. -/
theorem newline_not_mem_of_mem_scanBackward (h : place ≤ d.length) (ht : t ∈ d.scanBackward place) :
    '\n' ∉ t.text.toList := by
  have hpos := (stop_le_of_mem_scanBackward h ht).1
  have hline := lineNumber_stop_of_mem_scanBackward h ht
  rw [text_of_mem_scanBackward ht]
  exact (d.lineNumber_eq_iff (Int.ofNat_le.mpr hpos.le)).mp hline.symm

/-- A scan walks up the lines of the document, from the cursor's to the first. Read from the last to
the first, the tokens it sees tile the text before the cursor: none holds a line feed, and each
character there that is not blank belongs to exactly one of them. -/
theorem scanBackward_tiles (d : Document) (cursor : Int) :
    d.scanBackward cursor = d.walkBackward (d.lineNumber cursor) (d.clamp cursor) ∧
      Lexer.Tiles d.chars 0 (d.clamp cursor) (d.scanBackward cursor).reverse ∧
      (∀ t ∈ d.scanBackward cursor, '\n' ∉ t.text.toList) ∧
      ∀ (place : Nat) (c : Char), place < d.clamp cursor → d.chars[place]? = some c →
        isBlank c = false → ∃! t, t ∈ d.scanBackward cursor ∧ t.Has place := by
  refine ⟨scanBackward_eq_walkBackward d cursor, ?_⟩
  have hplace := d.clamp_le cursor
  rw [← scanBackward_clamp]
  refine ⟨⟨fun t ht => ?_, ?_, fun t ht => ?_, fun t ht => ?_, fun t ht => ?_, ?_, ?_⟩,
    fun t ht => newline_not_mem_of_mem_scanBackward hplace ht,
    fun place c hi hchar hc => existsUnique_has hplace hi hchar hc⟩
  · exact (stop_le_of_mem_scanBackward hplace (List.mem_reverse.mp ht)).1
  · exact List.pairwise_reverse.mpr (pairwise_scanBackward hplace)
  · have hstop := (stop_le_of_mem_scanBackward hplace (List.mem_reverse.mp ht)).2
    exact ⟨Int.natCast_nonneg _, Int.ofNat_le.mpr hstop⟩
  · obtain ⟨line, -, stop, hmem⟩ := exists_mem_classify (List.mem_reverse.mp ht)
    exact (Lexer.mem_tokens hmem).2.2
  · obtain ⟨line, -, stop, hmem⟩ := exists_mem_classify (List.mem_reverse.mp ht)
    exact Lexer.exists_text_eq_cons_of_mem hmem
  · intro place c _ hi hchar hnone
    by_contra hc
    obtain ⟨t, ⟨ht, hhas⟩, -⟩ := existsUnique_has hplace (Int.ofNat_lt.mp hi) hchar (by simpa using hc)
    exact hnone t (List.mem_reverse.mpr ht) hhas
  · have hle := length_scanBackward_le hplace
    rw [List.length_reverse]
    omega

/-- A scan over a line break, an empty line, and a string that the cursor cuts. -/
example : (ofString "a.b\r\n\n 'c d'").scanBackward 9 =
    [⟨.string, "'c", 7⟩, ⟨.identifier, "b", 2⟩, ⟨.operator, ".", 1⟩, ⟨.identifier, "a", 0⟩] := by
  cbv

end Document

end ModuleHints

import ModuleHints.Proofs.Completion.Within
import ModuleHints.Proofs.Source.Steps
import ModuleHints.Proofs.Text.Sorting

/-!
# The words on offer

Outside `require` calls the words on offer are the reserved words and the names of the document,
each once and in code point order. The names are those of the whole document lexed at once, while
the word at the cursor comes from its line alone, so the two need not agree on where names stand.
Where they show the same word at different places, the places are apart all the same: a word never
ends before a character of a word.
-/

namespace ModuleHints

open Unicode

/-- Texts that are in order once are all the texts, each once, in code point order. -/
theorem inOrderOnce_spec (texts : List String) :
    (∀ x, x ∈ inOrderOnce texts ↔ x ∈ texts) ∧ (inOrderOnce texts).Pairwise (· < ·) := by
  have hsorted : (texts.mergeSort (· ≤ ·)).Pairwise (· ≤ ·) := pairwise_mergeSort_by id texts
  have hmem : ∀ x, x ∈ texts.mergeSort (· ≤ ·) ↔ x ∈ texts := fun x => List.mem_mergeSort
  rw [inOrderOnce]
  generalize texts.mergeSort (· ≤ ·) = sorted at hsorted hmem
  cases sorted with
  | nil => exact ⟨hmem, .nil⟩
  | cons a l => exact ⟨fun x => mem_eraseReps.trans (hmem x), pairwise_eraseReps hsorted⟩

/-- A name is no reserved word. -/
theorem Lexer.text_not_mem_keywords {last : Option Token} {offset : Nat} {cs : List Char} {t : Token}
    (h : t ∈ Lexer.tokensFrom last offset cs) (hkind : t.kind = .identifier) :
    t.text ∉ Lexer.keywords := by
  rw [← (Lexer.isLexeme_of_mem h).kind_eq_keyword_iff, hkind]
  decide

namespace Document

variable {d : Document} {t u : Token}

section Offered

/-- A name on offer is that of a token that begins elsewhere. -/
theorem mem_namesExcept_iff {start : Int} {word : String} :
    word ∈ d.namesExcept start ↔ ∃ t ∈ Lexer.tokens d.chars 0 d.length,
      t.kind = .identifier ∧ t.text = word ∧ (t.start : Int) ≠ start := by
  simp only [namesExcept, List.mem_map, List.mem_filter, Bool.and_eq_true, decide_eq_true_eq]
  constructor
  · rintro ⟨t, ⟨ht, hkind, hstart⟩, hword⟩
    exact ⟨t, ht, hkind, hword, hstart⟩
  · rintro ⟨t, ht, hkind, hword, hstart⟩
    exact ⟨t, ⟨ht, hkind, hstart⟩, hword⟩

/-- No name is a reserved word. -/
theorem not_mem_keywords_of_mem_namesExcept {start : Int} {word : String}
    (h : word ∈ d.namesExcept start) : word ∉ Lexer.keywords := by
  obtain ⟨t, ht, hkind, rfl, -⟩ := mem_namesExcept_iff.mp h
  exact Lexer.text_not_mem_keywords ht hkind

/-- The items of a set of words are those of the reserved words and of the names. -/
theorem mem_items_wordSet {cursor : Int} {i : Item} :
    i ∈ (d.wordSet cursor).items ↔ (∃ word ∈ Lexer.keywords, i = wordItem .keyword word) ∨
      ∃ word ∈ d.namesExcept (d.wordSpan cursor).start, i = wordItem .identifier word := by
  simp only [wordSet, List.mem_mergeSort, List.mem_append, List.mem_map, (inOrderOnce_spec _).1,
    eq_comm]

/-- A set of words offers the reserved words and the names. -/
theorem mem_words_wordSet {cursor : Int} {word : String} :
    word ∈ (d.wordSet cursor).items.map Item.display ↔
      word ∈ Lexer.keywords ∨ word ∈ d.namesExcept (d.wordSpan cursor).start := by
  simp only [List.mem_map, mem_items_wordSet]
  constructor
  · rintro ⟨i, ⟨w, hw, rfl⟩ | ⟨w, hw, rfl⟩, rfl⟩
    · exact .inl hw
    · exact .inr hw
  · rintro (hw | hw)
    · exact ⟨_, .inl ⟨word, hw, rfl⟩, rfl⟩
    · exact ⟨_, .inr ⟨word, hw, rfl⟩, rfl⟩

/-- The items of a set of words come in code point order, each word once. -/
theorem pairwise_items_wordSet (d : Document) (cursor : Int) :
    (d.wordSet cursor).items.Pairwise fun a b => a.display < b.display := by
  have hshown : ∀ (origin : Origin) (words : List String),
      (words.map (wordItem origin)).map Item.display = words := by
    intro origin words
    rw [List.map_map]
    exact List.map_id words
  apply pairwise_lt_mergeSort_by
  rw [List.map_append, hshown, hshown]
  obtain ⟨hmem, hnames⟩ := inOrderOnce_spec (d.namesExcept (d.wordSpan cursor).start)
  refine List.nodup_append.mpr ⟨by decide +kernel, hnames.imp fun h => h.ne, ?_⟩
  rintro word hword _ hname rfl
  exact not_mem_keywords_of_mem_namesExcept ((hmem word).mp hname) hword

end Offered

section Apart

/-- Behind what a line says comes nothing, or a blank character of its line break. -/
theorem isBlank_of_lineStop {line : Nat} (h : line < d.lineCount) {c : Char}
    (hc : d.chars[d.lineStop line]? = some c) : isBlank c = true := by
  obtain ⟨earlier, after, later, hlines, rfl⟩ := exists_linesAround_lineText h le_rfl
  have htext := hlines.lineText_eq
  rw [List.take_length] at htext
  rw [lineStop, ← List.head?_drop] at hc
  split at htext
  next hlast =>
    have hrest : splitLines _ = [] ++ [[]] := hlines.after_eq.trans (by
      rw [List.self_eq_append_right.mp htext, hlast]
      rfl)
    obtain ⟨head, hdrop, hlen⟩ := exists_append_of_splitLines hrest
    rw [hdrop, List.eq_nil_of_length_eq_zero hlen] at hc
    cases hc
  next hmore =>
    obtain ⟨blanks, hline, hblank⟩ := exists_withoutReturn_append (d.lineText _ ++ after)
    rw [← htext, List.append_cancel_left_eq] at hline
    obtain ⟨rest, hdrop, -⟩ := exists_cons_of_splitLines hlines.after_eq hmore
    rw [hdrop, hline] at hc
    cases blanks with
    | nil =>
      cases hc
      decide
    | cons b blanks =>
      cases hc
      exact (Bool.and_eq_true_iff.mp hblank).1

/-- A word that stands on its own: it is made of characters of words, and none stands behind it. -/
structure HasWhole (d : Document) (t : Token) : Prop where
  /-- Its characters are those of words. -/
  isIdentChar : ∀ i, t.start ≤ i → i < t.stop → ∃ c, d.chars[i]? = some c ∧ isIdentChar c = true
  /-- The character behind it is none. -/
  next : ∀ c, d.chars[t.stop]? = some c → ModuleHints.isIdentChar c = false

/-- A word of a range stands on its own where the range parts no word. -/
theorem hasWhole_of_mem_tokens {start stop : Nat} (h : t ∈ Lexer.tokens d.chars start stop)
    (hcan : t.canComplete = true)
    (hnext : ∀ c, d.chars[stop]? = some c → isIdentChar c = false) : d.HasWhole t := by
  obtain ⟨hstart, hstop, htext⟩ := Lexer.mem_tokens h
  constructor
  · intro i hi hlt
    obtain ⟨c, hc⟩ : ∃ c, d.chars[i]? = some c := by
      exact ⟨d.chars[i], List.getElem?_eq_getElem (by omega)⟩
    refine ⟨c, hc, (Lexer.isLexeme_of_mem h).isIdentChar_of_mem hcan ?_⟩
    rw [htext, List.mem_iff_getElem?]
    exact ⟨i - t.start, by rw [List.getElem?_drop, List.getElem?_take, if_pos (by omega),
      Nat.add_sub_cancel' hi, hc]⟩
  · intro c hc
    rcases (Nat.le_min.mp hstop).1.lt_or_eq with hlt | heq
    · apply Lexer.next_of_canComplete h hcan
      have hle := Lexer.start_lt_stop_of_mem h
      rw [List.getElem?_drop, List.getElem?_take, if_pos (by omega),
        Nat.add_sub_cancel' (by omega), hc]
    · exact hnext c (heq ▸ hc)

/-- Words of one length that begin at different places and stand on their own do not overlap. -/
theorem HasWhole.apart (ht : d.HasWhole t) (hu : d.HasWhole u)
    (hlength : t.text.length = u.text.length) (hne : t.start ≠ u.start) :
    t.stop ≤ u.start ∨ u.stop ≤ t.start := by
  have hfirst : ∀ {t u : Token}, d.HasWhole t → d.HasWhole u → t.text.length = u.text.length →
      t.start < u.start → t.stop ≤ u.start := by
    intro t u ht hu hlength hlt
    by_contra hover
    have hends : t.stop < u.stop := by
      rw [Token.stop, Token.stop]
      omega
    obtain ⟨c, hc, hword⟩ := hu.isIdentChar t.stop (by omega) hends
    rw [ht.next c hc] at hword
    cases hword
  rcases Nat.lt_or_gt_of_ne hne with hlt | hlt
  · exact .inl (hfirst ht hu hlength hlt)
  · exact .inr (hfirst hu ht hlength.symm hlt)

/-- The word at a place, if there is one, stands on its own. -/
theorem exists_hasWhole_of_wordSpan {place : Nat} (h : place ≤ d.length)
    (hlength : (d.wordSpan place).length ≠ 0) :
    ∃ word, d.wordSpan place = .ofToken word ∧ d.HasWhole word ∧
      word.text.toList = d.slice word.start word.stop := by
  rw [wordSpan_eq_wordsAt h] at hlength ⊢
  cases hhead : (d.wordsAt place).head? with
  | none =>
    rw [hhead] at hlength
    exact absurd rfl hlength
  | some word =>
    obtain ⟨hmem, hat⟩ := List.mem_filter.mp (List.mem_of_mem_head? hhead)
    obtain ⟨earlier, before, after, later, hlines⟩ := exists_linesAround h
    refine ⟨word, rfl, hasWhole_of_mem_tokens hmem (Token.isWordAt_iff.mp hat).1 ?_,
      text_of_mem_tokens hmem⟩
    intro c hc
    rw [hlines.lineNumber_eq, clamp_of_le hlines.lineStop_le] at hc
    have hblank := isBlank_of_lineStop (hlines.lineNumber_eq ▸ d.lineNumber_lt place) hc
    rw [Bool.eq_false_iff]
    intro hword
    rw [isBlank_of_isIdentChar hword] at hblank
    cases hblank

/-- A name of the document that says the same as the word at a place, and begins elsewhere, does not
overlap it. -/
theorem apart_of_wordSpan {place : Nat} (h : place ≤ d.length)
    (hlength : (d.wordSpan place).length ≠ 0) (ht : t ∈ Lexer.tokens d.chars 0 d.length)
    (hkind : t.kind = .identifier)
    (hshown : t.text.toList = d.slice (d.wordSpan place).start (d.wordSpan place).stop)
    (hstart : (t.start : Int) ≠ (d.wordSpan place).start) :
    (t.stop : Int) ≤ (d.wordSpan place).start ∨ (d.wordSpan place).stop ≤ t.start := by
  obtain ⟨word, hword, hwhole, htext⟩ := exists_hasWhole_of_wordSpan h hlength
  rw [hword, Span.stop_ofToken] at hshown ⊢
  rw [hword] at hstart
  have hsame : t.text = word.text := String.toList_inj.mp (hshown.trans htext.symm)
  have hcan : t.canComplete = true := by simp [Token.canComplete, hkind]
  have hwhole' : d.HasWhole t := by
    refine hasWhole_of_mem_tokens ht hcan fun c hc => ?_
    rw [length, List.getElem?_eq_none le_rfl] at hc
    cases hc
  have hne : t.start ≠ word.start := fun heq => hstart (congrArg Nat.cast heq)
  rcases hwhole'.apart hwhole (congrArg String.length hsame) hne with hbefore | hbehind
  · exact .inl (Int.ofNat_le.mpr hbefore)
  · exact .inr (Int.ofNat_le.mpr hbehind)

end Apart

/-- Items offer the words of a document that are known where a span is to be replaced. -/
structure OffersWords (d : Document) (span : Span) (items : List Item) : Prop where
  /-- The words come in code point order, each once. -/
  in_order : items.Pairwise fun a b => a.display < b.display
  /-- They are the reserved words, and the names of the document that begin elsewhere. -/
  mem_iff : ∀ word, word ∈ items.map Item.display ↔ word ∈ Lexer.keywords ∨
    ∃ t ∈ Lexer.tokens d.chars 0 d.length,
      t.kind = .identifier ∧ t.text = word ∧ (t.start : Int) ≠ span.start
  /-- Each says which of the two it is. -/
  origin_eq : ∀ i ∈ items, i.origin = if i.display ∈ Lexer.keywords then .keyword else .identifier
  /-- The word to be replaced is on offer only where it is reserved, or stands apart from the span,
  too. -/
  elsewhere : ∀ word, span.length ≠ 0 → word.toList = d.slice span.start span.stop →
    word ∈ items.map Item.display → word ∉ Lexer.keywords →
    ∃ t ∈ Lexer.tokens d.chars 0 d.length, t.kind = .identifier ∧ t.text = word ∧
      ((t.stop : Int) ≤ span.start ∨ span.stop ≤ t.start)

section Complete

variable (settings : Settings) (disk : Disk) (here : Path) (d : Document) (cursor : Int)
  (project : Option Project) (path : Option String) (m : Memory)

/-- Words are completed exactly where no modules are asked for, and then by the set of words. -/
theorem kind_complete :
    let set := (Catalog.complete settings disk here d cursor project path m).1.set
    (set.kind = .words ↔ d.asksForModules cursor = false) ∧
      (set.kind = .words → set = d.wordSet (d.clamp cursor)) := by
  intro set
  have hset : set = _ := Catalog.set_complete settings disk here m d cursor project path
  cases hasks : d.asksForModules cursor with
  | true =>
    have hkind : set.kind = .modules := by
      rw [hset, hasks, if_pos rfl]
      rfl
    have hnot : set.kind ≠ .words := by simp [hkind]
    exact ⟨⟨fun h => absurd h hnot, fun h => by cases h⟩, fun h => absurd h hnot⟩
  | false =>
    rw [hasks, if_neg Bool.false_ne_true, complete, hasks, if_neg Bool.false_ne_true] at hset
    have hkind : set.kind = .words := by
      rw [hset]
      rfl
    exact ⟨⟨fun _ => rfl, fun _ => hkind⟩, fun _ => hset⟩

/-- Where words are completed, whatever the project, the words known in the document are on offer. -/
theorem complete_offersWords :
    let set := (Catalog.complete settings disk here d cursor project path m).1.set
    set.kind = .words → d.OffersWords set.span set.items := by
  intro set hkind
  have hset := (kind_complete settings disk here d cursor project path m).2 hkind
  change set = _ at hset
  have hspan : set.span = d.wordSpan (d.clamp cursor) := by
    rw [hset]
    rfl
  rw [hspan, hset]
  refine ⟨d.pairwise_items_wordSet _, fun word => ?_, fun i hi => ?_, ?_⟩
  · rw [mem_words_wordSet, mem_namesExcept_iff]
  · rcases mem_items_wordSet.mp hi with ⟨word, hword, rfl⟩ | ⟨word, hword, rfl⟩
    · exact (if_pos hword).symm
    · exact (if_neg (not_mem_keywords_of_mem_namesExcept hword)).symm
  · intro word hlength hshown hoffered hnot
    obtain ⟨t, ht, hname, rfl, hstart⟩ :=
      mem_namesExcept_iff.mp ((mem_words_wordSet.mp hoffered).resolve_left hnot)
    exact ⟨t, ht, hname, rfl, apart_of_wordSpan (d.clamp_le cursor) hlength ht hname hshown hstart⟩

end Complete

/-- A word that is being typed is on offer, since it also stands at the end of the document. -/
theorem complete_offersWords_typed :
    let d := ofString "`\nab` cab ab"
    let set := (Catalog.complete {} {} (.ofString "/w") d 4 none none {}).1.set
    set.kind = .words ∧ set.span = ⟨2, 2⟩ ∧ d.OffersWords set.span set.items := by
  intro d set
  have hasks : d.asksForModules 4 = false := by
    simp only [d]
    cbv
  obtain ⟨hiff, hset⟩ := kind_complete {} {} (.ofString "/w") d 4 none none {}
  have hkind : set.kind = .words := hiff.mpr hasks
  have hspan : set.span = ⟨2, 2⟩ := by
    have htouch : d.wordSpan (d.clamp 4) = ⟨2, 2⟩ := by
      simp only [d]
      cbv
    rw [← htouch, show set = _ from hset hkind]
    rfl
  exact ⟨hkind, hspan, complete_offersWords {} {} _ d 4 none none {} hkind⟩

end Document

end ModuleHints

import ModuleHints.Server.Answer
import ModuleHints.Proofs.Text.Sorting
import Mathlib.Data.Char
import Mathlib.Data.List.Nodup

/-!
# The order that a client shows

A client sorts the entries that it gets by a text, which is the number of the entry in at least five
digits. Numerals of one length are in the order of their numbers. A longer numeral is the greater
number, but as a text it may come before a shorter one, and the first one with six digits does. So a
client shows a set in its order exactly where five digits are enough to count the entries.
-/

namespace ModuleHints.Server

section Numerals

variable {cs ds : List Char} {i j : Nat}

/-- A digit is zero or one of the nine characters that follow. -/
theorem toNat_of_isDigit {c : Char} (h : c.isDigit = true) :
    '0'.toNat ≤ c.toNat ∧ c.toNat ≤ '0'.toNat + 9 := by
  rw [Char.isDigit, Bool.and_eq_true, decide_eq_true_eq, decide_eq_true_eq] at h
  exact ⟨UInt32.le_iff_toNat_le.mp h.1, UInt32.le_iff_toNat_le.mp h.2⟩

/-- Of numerals of one length, the one behind the greater number goes on to the greater number. -/
theorem ofDigitChars_lt_of_lt (hcs : ∀ c ∈ cs, c.isDigit = true) (hlength : cs.length = ds.length)
    (h : i < j) : Nat.ofDigitChars 10 cs i < Nat.ofDigitChars 10 ds j := by
  induction cs generalizing ds i j with
  | nil =>
    rw [List.eq_nil_of_length_eq_zero hlength.symm]
    exact h
  | cons c cs ih =>
    obtain ⟨d, ds, rfl⟩ := List.exists_cons_of_length_eq_add_one hlength.symm
    rw [Nat.ofDigitChars_cons, Nat.ofDigitChars_cons]
    have hc := toNat_of_isDigit (hcs c (List.mem_cons_self ..))
    apply ih (fun c hc => hcs c (List.mem_cons_of_mem _ hc)) (Nat.succ.inj hlength)
    omega

/-- Numerals of one length that are in order as texts are so as numbers. -/
theorem ofDigitChars_lt (hcs : ∀ c ∈ cs, c.isDigit = true) (hlength : cs.length = ds.length)
    (h : cs < ds) (i : Nat) : Nat.ofDigitChars 10 cs i < Nat.ofDigitChars 10 ds i := by
  induction cs generalizing ds i with
  | nil =>
    rw [List.eq_nil_of_length_eq_zero hlength.symm] at h
    exact absurd h (lt_irrefl _)
  | cons c cs ih =>
    obtain ⟨d, ds, rfl⟩ := List.exists_cons_of_length_eq_add_one hlength.symm
    have hrest : ∀ c ∈ cs, c.isDigit = true := fun c hc => hcs c (List.mem_cons_of_mem _ hc)
    rw [Nat.ofDigitChars_cons, Nat.ofDigitChars_cons]
    rcases List.cons_lt_cons_iff.mp h with hfirst | ⟨rfl, hlt⟩
    · have hc := toNat_of_isDigit (hcs c (List.mem_cons_self ..))
      have hlt : c.toNat < d.toNat := hfirst
      apply ofDigitChars_lt_of_lt hrest (Nat.succ.inj hlength)
      omega
    · exact ih hrest (Nat.succ.inj hlength) hlt _

end Numerals

section Texts

variable {i j : Nat}

/-- A text to sort by is made of digits. -/
theorem isDigit_of_mem_sortText {c : Char} (h : c ∈ (sortText i).toList) : c.isDigit = true := by
  rw [sortText, String.toList_ofList, List.mem_append] at h
  rcases h with hzero | hdigit
  · rw [List.eq_of_mem_replicate hzero]
    rfl
  · exact Nat.isDigit_of_mem_toDigits (by decide) (by decide) hdigit

/-- A text to sort by is the numeral of the place it stands for. -/
theorem ofDigitChars_sortText (i : Nat) : Nat.ofDigitChars 10 (sortText i).toList 0 = i := by
  rw [sortText, String.toList_ofList, Nat.ofDigitChars_append, Nat.ofDigitChars_replicate_zero,
    Nat.mul_zero, Nat.ofDigitChars_ten_toDigits]

theorem sortText_injective : Function.Injective sortText := by
  intro i j h
  rw [← ofDigitChars_sortText i, ← ofDigitChars_sortText j, h]

/-- Texts of one length are in the order of the places they stand for. -/
theorem sortText_lt (hlength : (sortText i).length = (sortText j).length) (h : i < j) :
    sortText i < sortText j := by
  rcases lt_or_gt_of_ne (sortText_injective.ne h.ne) with hlt | hgt
  · exact hlt
  · have hback := ofDigitChars_lt (fun c hc => isDigit_of_mem_sortText hc) hlength.symm
      (String.lt_iff_toList_lt.mp hgt) 0
    rw [ofDigitChars_sortText, ofDigitChars_sortText] at hback
    exact absurd h (Nat.lt_asymm hback)

/-- Five digits are enough below a hundred thousand. -/
theorem length_sortText_eq_five (h : i < 100000) : (sortText i).length = 5 := by
  have hdigits : (Nat.toDigits 10 i).length ≤ 5 :=
    (Nat.length_toDigits_le_iff (by decide) (by decide)).mpr h
  rw [sortText, String.length_ofList, List.length_append, List.length_replicate]
  omega

/-- The first text with six digits comes before the last one with five. -/
theorem sortText_hundred_thousand : sortText 100000 < sortText 99999 := by
  decide

end Texts

section Entries

variable (d : Document) (e : Encoding) (set : CompletionSet)

/-- The entries of a set are its items, in their order. -/
theorem map_entries : (entries d e set).map (fun a => (a.label, a.origin, a.detail, a.newText)) =
    set.items.map fun i => (i.display, i.origin, i.description, i.insertion) := by
  conv_rhs => rw [← List.zipIdx_map_fst 0 set.items, List.map_map]
  rw [entries, List.map_map]
  rfl

/-- The texts to sort the entries of a set by are those of their places. -/
theorem map_sortText_entries :
    (entries d e set).map Entry.sortText = (List.range set.items.length).map sortText := by
  rw [List.range_eq_range', ← List.zipIdx_map_snd 0 set.items]
  rw [entries, List.map_map, List.map_map]
  rfl

/-- What holds of the texts of two places holds of the entries at these places. -/
theorem pairwise_entries_iff {r : String → String → Prop} :
    (entries d e set).Pairwise (fun a b => r a.sortText b.sortText) ↔
      (List.range set.items.length).Pairwise fun i j => r (sortText i) (sortText j) := by
  rw [← List.pairwise_map, map_sortText_entries, List.pairwise_map]

/-- The texts of the entries increase exactly where five digits are enough for all of them. -/
theorem pairwise_entries_lt_iff :
    (entries d e set).Pairwise (fun a b => a.sortText < b.sortText) ↔ set.items.length ≤ 100000 := by
  rw [pairwise_entries_iff]
  constructor
  · intro h
    by_contra hmany
    have hlt := List.pairwise_iff_getElem.mp h 99999 100000 (by rw [List.length_range]; omega)
      (by rw [List.length_range]; omega) (by decide)
    rw [List.getElem_range, List.getElem_range] at hlt
    exact lt_asymm hlt sortText_hundred_thousand
  · intro h
    refine List.pairwise_lt_range.imp_of_mem fun {i j} hi hj hij => ?_
    have hi := (List.mem_range.mp hi).trans_le h
    have hj := (List.mem_range.mp hj).trans_le h
    exact sortText_lt ((length_sortText_eq_five hi).trans (length_sortText_eq_five hj).symm) hij

/-- Entries with different texts are shown in their order exactly where the texts increase. -/
theorem sorted_eq_iff {shown : List Entry} (hnodup : (shown.map Entry.sortText).Nodup) :
    (∀ sorted : List Entry, sorted.Perm shown →
      sorted.Pairwise (fun a b => a.sortText ≤ b.sortText) → sorted = shown) ↔
      shown.Pairwise fun a b => a.sortText < b.sortText := by
  constructor
  · intro h
    have hsorted := pairwise_lt_mergeSort_by hnodup
    rwa [h _ (List.mergeSort_perm ..) (hsorted.imp fun hlt => hlt.le)] at hsorted
  · intro h sorted hperm hsorted
    refine hperm.eq_of_pairwise (fun a b ha hb hab hba => ?_) hsorted (h.imp fun hlt => hlt.le)
    exact List.inj_on_of_nodup_map hnodup (hperm.subset ha) hb (le_antisymm hab hba)

/-- What the texts of entries say of the order in which a client shows them. -/
structure CountsEntries (set : CompletionSet) (shown : List Entry) : Prop where
  /-- The entries are the items of the set, in their order. -/
  items_eq : shown.map (fun a => (a.label, a.origin, a.detail, a.newText)) =
    set.items.map fun i => (i.display, i.origin, i.description, i.insertion)
  /-- No two entries have the same text. -/
  nodup : (shown.map Entry.sortText).Nodup
  /-- Texts of one length increase. -/
  lt_of_length_eq : shown.Pairwise fun a b =>
    a.sortText.length = b.sortText.length → a.sortText < b.sortText
  /-- All texts increase exactly where there are at most a hundred thousand entries. -/
  increasing_iff : shown.Pairwise (fun a b => a.sortText < b.sortText) ↔ set.items.length ≤ 100000
  /-- That is where a client that sorts the entries has them in their order. -/
  sorted_iff : (∀ sorted : List Entry, sorted.Perm shown →
    sorted.Pairwise (fun a b => a.sortText ≤ b.sortText) → sorted = shown) ↔
      set.items.length ≤ 100000

/-- A client that sorts the entries of a set has them in the order of the set, up to a hundred
thousand. -/
theorem entries_countsEntries : CountsEntries set (entries d e set) := by
  have hnodup : ((entries d e set).map Entry.sortText).Nodup := by
    rw [map_sortText_entries]
    exact List.Nodup.map sortText_injective List.nodup_range
  constructor
  case items_eq => exact map_entries d e set
  case nodup => exact hnodup
  case lt_of_length_eq =>
    rw [pairwise_entries_iff d e set (r := fun a b => a.length = b.length → a < b)]
    exact List.pairwise_lt_range.imp fun hij hlength => sortText_lt hlength hij
  case increasing_iff => exact pairwise_entries_lt_iff d e set
  case sorted_iff => rw [sorted_eq_iff hnodup, pairwise_entries_lt_iff]

/-- The last of a hundred thousand and one files of a folder comes too early. -/
theorem entries_of_many_files :
    let files : List Candidate :=
      (List.range 100001).map fun n => ⟨"./" ++ n.repr ++ ".js", "", .project⟩
    let set := assemble [] files (some .single) (.empty 9) "'"
    ¬ (entries (.ofString "require('") .utf16 set).Pairwise fun a b => a.sortText < b.sortText := by
  intro files set h
  have hlength : set.items.length = 100001 := by
    rw [length_items_assemble, List.length_map, List.length_range]
    rfl
  have hfew := (pairwise_entries_lt_iff _ _ set).mp h
  omega

end Entries

end ModuleHints.Server

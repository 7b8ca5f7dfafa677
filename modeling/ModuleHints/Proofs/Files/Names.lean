import Mathlib.Logic.Function.Basic
import ModuleHints.Files.Path
import ModuleHints.Proofs.Source.Lines

/-!
# Names of files

The names of an absolute path are those that a folder may hold: a written path gives no others,
except for the two dots that are gone once the path is absolute. Written out and read again such a
path is the same.
-/

namespace ModuleHints

/-- Whether a text may name a file or folder. -/
def isFileName (n : String) : Bool :=
  n != "" && n != "." && n != ".." && !n.toList.contains '/'

namespace Text

/-- What stands before the first separator is the first piece. -/
theorem pieces_append_separator {separator : Char} {a : List Char} (h : separator ∉ a)
    (b : List Char) :
    pieces separator (a ++ separator :: b) = a :: pieces separator b := by
  have hone : pieces separator a = [] ++ [a] := pieces_of_not_mem h
  have hrest : pieces separator (separator :: b) = [] :: pieces separator b := by
    rw [pieces, if_pos rfl]
  rw [pieces_append hone hrest, List.append_nil, List.nil_append]

/-- Pieces that are joined by separators are the pieces of the whole. -/
theorem pieces_intercalate {separator : Char} {names : List (List Char)} (hne : names ≠ [])
    (h : ∀ n ∈ names, separator ∉ n) :
    pieces separator ([separator].intercalate names) = names := by
  induction names with
  | nil => exact absurd rfl hne
  | cons n rest ih =>
    have hn : separator ∉ n := h n (List.mem_cons_self ..)
    cases rest with
    | nil => rw [List.intercalate_singleton, pieces_of_not_mem hn]
    | cons m more =>
      rw [List.intercalate_cons_cons, List.append_assoc, List.singleton_append,
        pieces_append_separator hn, ih (by simp) fun k hk => h k (List.mem_cons_of_mem _ hk)]

end Text

namespace Path

/-- An absolute path of which every name may name a file or folder. -/
def Proper (p : Path) : Prop := p.isAbsolute = true ∧ ∀ n ∈ p.names, isFileName n = true

instance (p : Path) : Decidable p.Proper :=
  inferInstanceAs (Decidable (p.isAbsolute = true ∧ ∀ n ∈ p.names, isFileName n = true))

/-- A path of which every name may name a file or folder, or stands for the folder around. -/
def Plain (p : Path) : Prop := ∀ n ∈ p.names, n = ".." ∨ isFileName n = true

theorem slash_not_mem {n : String} (h : isFileName n = true) : '/' ∉ n.toList := by
  simp [isFileName] at h
  exact h.2

/-- The pieces of names that are joined by slashes. -/
theorem pieces_intercalate_names {names : List String} (h : ∀ n ∈ names, isFileName n = true) :
    (Text.pieces '/' ("/".intercalate names).toList).map String.ofList =
      if names = [] then [""] else names := by
  by_cases hnone : names = []
  · rw [hnone]
    rfl
  · have hslash : ∀ n ∈ names.map String.toList, '/' ∉ n := by
      intro n hn
      obtain ⟨name, hname, rfl⟩ := List.mem_map.mp hn
      exact slash_not_mem (h name hname)
    have hpieces := Text.pieces_intercalate (by simpa using hnone) hslash
    have hseparator : "/".toList = ['/'] := rfl
    rw [if_neg hnone, String.toList_intercalate, hseparator, hpieces]
    simp

/-- Names of files that are joined by slashes do not begin with a dot and a slash. -/
theorem intercalate_ne_dot_slash {names : List String}
    (h : ∀ n ∈ names, isFileName n = true) (text : String) :
    "/".intercalate names ≠ "./" ++ text := by
  intro heq
  have hpieces := pieces_intercalate_names h
  have hchars : ("./" ++ text).toList = ['.'] ++ '/' :: text.toList := by
    rw [String.toList_append]
    rfl
  rw [heq, hchars, Text.pieces_append_separator (by decide), List.map_cons] at hpieces
  by_cases hnone : names = []
  · rw [if_pos hnone] at hpieces
    exact absurd (List.cons.inj hpieces).1 (by decide)
  · rw [if_neg hnone] at hpieces
    have hdot := h "." (hpieces ▸ List.mem_cons_self ..)
    exact absurd hdot (by decide)

/-- Names of files that are joined by slashes and look like one name are that name. -/
theorem eq_of_intercalate_eq {name : String} {names : List String}
    (h : ∀ n ∈ names, isFileName n = true) (hne : names ≠ []) (hname : isFileName name = true)
    (heq : "/".intercalate names = name) :
    names = [name] := by
  have hpieces := pieces_intercalate_names h
  rw [heq, if_neg hne, Text.pieces_of_not_mem (slash_not_mem hname)] at hpieces
  simpa using hpieces.symm

/-- An absolute path is written with one or two slashes before its names. -/
theorem toList_toString {p : Path} (hp : p.isAbsolute = true) :
    p.toString.toList = '/' :: ("/".intercalate p.names).toList ∨
      p.toString.toList = '/' :: '/' :: ("/".intercalate p.names).toList := by
  have htext : ∀ slashes : String, slashes ≠ "" → anchorText p.anchor = slashes →
      p.toString = slashes ++ "/".intercalate p.names := by
    intro slashes hne hslashes
    have hsome : (slashes ++ "/".intercalate p.names).isEmpty = false := by simp [hne]
    rw [toString, hslashes]
    simp [hsome]
  cases hanchor : p.anchor with
  | here => simp [isAbsolute, hanchor] at hp
  | root =>
    left
    rw [htext "/" (by decide) (by rw [hanchor]; rfl), String.toList_append]
    rfl
  | network =>
    right
    rw [htext "//" (by decide) (by rw [hanchor]; rfl), String.toList_append]
    rfl

/-- An absolute path is written as one. -/
theorem anchorOf_toString {p : Path} (hp : p.isAbsolute = true) :
    anchorOf p.toString.toList ≠ .here := by
  obtain ⟨rest, hrest⟩ : ∃ rest, p.toString.toList = '/' :: rest := by
    rcases toList_toString hp with hchars | hchars
    · exact ⟨_, hchars⟩
    · exact ⟨_, hchars⟩
  intro hhere
  rw [hrest] at hhere
  unfold anchorOf at hhere
  split at hhere <;> simp_all

/-- The pieces of a proper path are its names, and empty ones. -/
theorem written_toString {p : Path} (hp : p.Proper) :
    (written p.toString).filter (· ≠ "") = p.names ∧
      ∀ n ∈ written p.toString, n = "" ∨ isFileName n = true := by
  have hnames := pieces_intercalate_names hp.2
  have hkept : p.names.filter (· ≠ "") = p.names := by
    rw [List.filter_eq_self]
    intro n hn
    have hname := hp.2 n hn
    simp only [isFileName, Bool.and_eq_true, bne_iff_ne] at hname
    simpa using hname.1.1.1
  have hrest : (if p.names = [] then [""] else p.names).filter (· ≠ "") = p.names ∧
      ∀ n ∈ if p.names = [] then [""] else p.names, n = "" ∨ isFileName n = true := by
    split
    next hnone => simp [hnone]
    next => exact ⟨hkept, fun n hn => .inr (hp.2 n hn)⟩
  rcases toList_toString hp.1 with hchars | hchars
  · rw [written, hchars, Text.pieces, if_pos rfl, List.map_cons, hnames]
    simpa using hrest
  · rw [written, hchars, Text.pieces, if_pos rfl, Text.pieces, if_pos rfl, List.map_cons,
      List.map_cons, hnames]
    simpa using hrest

/-- A path below a folder by one name is proper where both are. -/
theorem Proper.child {p : Path} (hp : p.Proper) {n : String} (hn : isFileName n = true) :
    (p.child n).Proper := by
  refine ⟨hp.1, ?_⟩
  intro m hm
  rcases List.mem_append.mp hm with hm | hm
  · exact hp.2 m hm
  · rw [List.mem_singleton.mp hm]
    exact hn

theorem child_injective (p : Path) : Function.Injective p.child := by
  intro a b hab
  have hnames := congrArg names hab
  simpa [Path.child] using hnames

theorem name_child (p : Path) (n : String) : (p.child n).name = n := by
  simp [Path.child, name]

theorem parent_child (p : Path) (n : String) : (p.child n).parent = p := by
  simp [Path.child, Path.parent]

/-- A written path is plain. -/
theorem plain_ofString (s : String) : (ofString s).Plain := by
  intro n hn
  obtain ⟨hwritten, hname⟩ := List.mem_filter.mp hn
  obtain ⟨piece, hpiece, rfl⟩ := List.mem_map.mp hwritten
  have hslash := Text.not_mem_of_mem_pieces hpiece
  by_cases hdots : String.ofList piece = ".."
  · exact .inl hdots
  · right
    simp only [isName, Bool.and_eq_true, bne_iff_ne] at hname
    simp [isFileName, hname.1, hname.2, hdots, hslash]

theorem Plain.parent {p : Path} (hp : p.Plain) : p.parent.Plain :=
  fun n hn => hp n (List.dropLast_subset _ hn)

/-- Of plain names none of those left stands for the folder around. -/
theorem isFileName_of_mem_settle {kept names : List String}
    (hkept : ∀ n ∈ kept, isFileName n = true) (h : ∀ n ∈ names, n = ".." ∨ isFileName n = true) :
    ∀ n ∈ settle kept names, isFileName n = true := by
  induction names generalizing kept with
  | nil => exact hkept
  | cons m rest ih =>
    have hrest : ∀ n ∈ rest, n = ".." ∨ isFileName n = true :=
      fun n hn => h n (List.mem_cons_of_mem _ hn)
    rw [settle]
    split
    next => exact ih (fun n hn => hkept n (List.mem_of_mem_tail hn)) hrest
    next hm =>
      refine ih ?_ hrest
      intro n hn
      rcases List.mem_cons.mp hn with rfl | hn
      · exact (h n (List.mem_cons_self ..)).resolve_left hm
      · exact hkept n hn

/-- A plain path is proper once it is made absolute. -/
theorem Plain.proper_absolute {p here : Path} (hp : p.Plain) (hhere : here.Proper) :
    (p.absolute here).Proper := by
  have hjoin : (here.join p).isAbsolute = true ∧
      ∀ n ∈ (here.join p).names, n = ".." ∨ isFileName n = true := by
    rw [join]
    split
    next habsolute => exact ⟨habsolute, hp⟩
    next =>
      refine ⟨hhere.1, ?_⟩
      intro n hn
      rcases List.mem_append.mp hn with hn | hn
      · exact .inr (hhere.2 n hn)
      · exact hp n hn
  refine ⟨hjoin.1, ?_⟩
  intro n hn
  exact isFileName_of_mem_settle (by simp) hjoin.2 n (List.mem_reverse.mp hn)

/-- Names of files stay when two dots are taken out. -/
theorem settle_eq {kept names : List String} (h : ∀ n ∈ names, isFileName n = true) :
    settle kept names = names.reverse ++ kept := by
  induction names generalizing kept with
  | nil => rfl
  | cons n rest ih =>
    have hdots : n ≠ ".." := by
      rintro rfl
      exact absurd (h _ (List.mem_cons_self ..)) (by decide)
    rw [settle, if_neg hdots, ih fun m hm => h m (List.mem_cons_of_mem _ hm), List.reverse_cons,
      List.append_assoc, List.singleton_append]

theorem Proper.absolute_eq {p : Path} (hp : p.Proper) (here : Path) : p.absolute here = p := by
  rw [absolute, join, if_pos hp.1, settle_eq hp.2, List.append_nil, List.reverse_reverse]

/-- Names that are joined are no empty text where the first one is none. -/
theorem intercalate_ne_empty {name : String} (h : name ≠ "") (rest : List String) :
    "/".intercalate (name :: rest) ≠ "" := by
  have hchars : name.toList ≠ [] := fun hnil => h (String.toList_eq_nil_iff.mp hnil)
  intro hempty
  have hlist := congrArg String.toList hempty
  rw [String.toList_intercalate, List.map_cons] at hlist
  cases rest with
  | nil =>
    rw [List.map_nil, List.intercalate_singleton] at hlist
    exact hchars hlist
  | cons other rest =>
    rw [List.map_cons, List.intercalate_cons_cons, List.append_assoc] at hlist
    exact hchars (List.append_eq_nil_iff.mp hlist).1

/-- From a folder the names behind its own lead to what is below it. -/
theorem relative_of_names_eq {folder p : Path} (hp : p.Proper) {name : String} {rest : List String}
    (h : p.names = folder.names ++ name :: rest) :
    relative folder p = "/".intercalate (p.names.drop folder.names.length) := by
  have hname : isFileName name = true := hp.2 name (by simp [h])
  have hne : name ≠ "" := by
    simp only [isFileName, Bool.and_eq_true, bne_iff_ne] at hname
    exact hname.1.1.1
  have htext := intercalate_ne_empty hne rest
  rw [relative, h, route_append, List.drop_left, toString]
  simp [anchorText, htext]

end Path

end ModuleHints

import Mathlib
import ModuleHints.Files.Path
import ModuleHints.Proofs.Unicode.LowerCase

/-!
# Endings of names

The ending of a name is what comes from its last dot on, if there is something before the dot and
something behind it. So a name that ends with a given text has that as its ending only if the text
has no other dot than its first character.
-/

namespace ModuleHints

namespace Path

/-- What comes from the last dot of a name on is its ending. -/
theorem endingOf_append {stem tail : List Char} (hstem : stem ≠ []) (htail : tail ≠ [])
    (hdot : '.' ∉ tail) : endingOf (stem ++ '.' :: tail) = '.' :: tail := by
  have hall : ∀ c ∈ tail.reverse, (c != '.') = true := by
    intro c hc
    rw [bne_iff_ne]
    rintro rfl
    exact hdot (List.mem_reverse.mp hc)
  have hrun : (stem ++ '.' :: tail).reverse.takeWhile (· != '.') = tail.reverse := by
    rw [List.reverse_append, List.reverse_cons, List.append_assoc,
      List.takeWhile_append_of_pos hall]
    simp
  have hpos := List.length_pos_iff.mpr hstem
  have hpos' := List.length_pos_iff.mpr htail
  have hplace : (stem ++ '.' :: tail).length - tail.length - 1 = stem.length := by
    rw [List.length_append, List.length_cons]
    omega
  rw [endingOf, hrun, List.length_reverse, hplace, List.drop_left, if_pos]
  rw [List.length_append, List.length_cons]
  omega

/-- A name that has an ending is a stem and then the ending. -/
theorem exists_append_of_endingOf {name : List Char} (h : endingOf name ≠ []) :
    ∃ stem tail, stem ≠ [] ∧ tail ≠ [] ∧ '.' ∉ tail ∧ name = stem ++ '.' :: tail := by
  rw [endingOf] at h
  have hlong := (ite_ne_right_iff.mp h).1
  have hparts := List.takeWhile_append_dropWhile (p := (· != '.')) (l := name.reverse)
  have hfirst := List.head?_dropWhile_not (· != '.') name.reverse
  have hrun : '.' ∉ name.reverse.takeWhile (· != '.') :=
    fun hdot => absurd (List.mem_takeWhile_imp hdot) (by decide)
  generalize name.reverse.takeWhile (· != '.') = run at *
  cases hbefore : name.reverse.dropWhile (· != '.') with
  | nil =>
    have hlength := congrArg List.length hparts
    rw [hbefore, List.append_nil, List.length_reverse] at hlength
    omega
  | cons c stem =>
    rw [hbefore] at hparts hfirst
    obtain rfl : c = '.' := by simpa using hfirst
    have hname : name = stem.reverse ++ '.' :: run.reverse := by
      rw [← List.reverse_inj, ← hparts]
      simp
    have hlength := congrArg List.length hname
    rw [List.length_append, List.length_cons, List.length_reverse, List.length_reverse] at hlength
    refine ⟨stem.reverse, run.reverse, ?_, ?_, by rwa [List.mem_reverse], hname⟩
    · rintro hnil
      rw [List.reverse_eq_nil_iff.mp hnil, List.length_nil] at hlength
      omega
    · rintro hnil
      rw [List.reverse_eq_nil_iff.mp hnil, List.length_nil] at hlong
      omega

end Path

/-- A text that is a dot and something behind it in lower case is so itself, and both have further
dots or neither has. -/
theorem exists_of_lowerCase_eq {ending text : String} {tail : List Char}
    (htext : text.toList = '.' :: tail) (htail : tail ≠ [])
    (h : Unicode.lowerCase ending = Unicode.lowerCase text) :
    ∃ rest, ending.toList = '.' :: rest ∧ rest ≠ [] ∧ ('.' ∈ rest ↔ '.' ∈ tail) := by
  have hlower := String.ofList_injective h
  rw [htext, Unicode.lowerAfter_dot] at hlower
  obtain ⟨rest, hrest, hsame⟩ := Unicode.exists_eq_dot_cons hlower
  refine ⟨rest, hrest, ?_, ?_⟩
  · rwa [Ne, ← Unicode.lowerAfter_eq_nil_iff, hsame, Unicode.lowerAfter_eq_nil_iff]
  · rw [← Unicode.dot_mem_lowerAfter_iff, hsame, Unicode.dot_mem_lowerAfter_iff]

namespace Path

/-- Whether a name is a stem and then a text in any case. -/
def HasEnding (name text : String) : Prop :=
  ∃ stem ending, stem ≠ "" ∧ name = stem ++ ending ∧
    Unicode.lowerCase ending = Unicode.lowerCase text

/-- The extension of a path is a dot and something behind it where its name ends so and there is no
other dot in that. -/
theorem extension_eq_iff {p : Path} {text : String} {tail : List Char}
    (htext : text.toList = '.' :: tail) (htail : tail ≠ []) :
    p.extension = Unicode.lowerCase text ↔ '.' ∉ tail ∧ HasEnding p.name text := by
  rw [extension]
  constructor
  · intro h
    obtain ⟨rest, hrest, -, hdots⟩ := exists_of_lowerCase_eq htext htail h
    rw [String.toList_ofList] at hrest
    have hending : endingOf p.name.toList ≠ [] := hrest ▸ List.cons_ne_nil _ _
    obtain ⟨stem, tail', hstem, htail', hdot, hname⟩ := exists_append_of_endingOf hending
    have hwhole := endingOf_append hstem htail' hdot
    rw [← hname] at hwhole
    obtain ⟨-, rfl⟩ := List.cons.inj (hrest.symm.trans hwhole)
    refine ⟨fun h => hdot (hdots.mpr h), String.ofList stem, _, ?_, ?_, h⟩
    · exact fun hnil => hstem (String.ofList_injective hnil)
    · rw [← String.ofList_append, hwhole, ← hname, String.ofList_toList]
  · rintro ⟨hdot, stem, ending, hstem, hname, hlower⟩
    obtain ⟨rest, hrest, hne, hdots⟩ := exists_of_lowerCase_eq htext htail hlower
    have hwhole : endingOf p.name.toList = ending.toList := by
      rw [hname, String.toList_append, hrest]
      exact endingOf_append (fun hnil => hstem (String.toList_injective hnil)) hne
        (fun h => hdot (hdots.mp h))
    rw [hwhole, String.ofList_toList, hlower]

end Path

end ModuleHints

import ModuleHints.Completion.Set
import ModuleHints.Proofs.Text.Sorting

/-!
# Merging the modules on offer

The modules of the runtime and those of the project are offered as one list. It is the stable sort of
one list followed by the other, in an order that is total and transitive but tells no two modules of
one specifier apart. So the specifiers come in order, paths from the requiring file last, and among
modules of one specifier those of the runtime come first, as they were given.
-/

namespace ModuleHints

namespace Candidate

/-- A specifier is a path from the requiring file where it begins with a dot. -/
theorem isRelative_iff (c : Candidate) : c.isRelative = true ↔ ['.'] <+: c.display.toList := by
  rw [isRelative]
  cases c.display.toList with
  | nil => simp
  | cons first rest =>
    rw [List.head?_cons, List.cons_prefix_cons, beq_iff_eq, Option.some_inj, eq_comm]
    simp only [List.nil_prefix, and_true]

/-- One candidate may come before another where only the other is a path from the requiring file, and
within a group where its specifier does. -/
theorem le_iff {a b : Candidate} : a.le b = true ↔
    (a.isRelative = true → b.isRelative = true) ∧
      (a.isRelative = b.isRelative → a.display ≤ b.display) := by
  unfold le
  cases a.isRelative <;> cases b.isRelative <;> simp

/-- Of two candidates with one specifier either may come before the other. -/
theorem le_of_display_eq {a b : Candidate} (h : a.display = b.display) : a.le b = true := by
  have hrelative : a.isRelative = b.isRelative := by rw [isRelative, isRelative, h]
  refine le_iff.mpr ⟨fun ha => hrelative ▸ ha, fun _ => ?_⟩
  rw [h]

/-- Sorted candidates come in order. -/
theorem pairwise_mergeSort (l : List Candidate) :
    (l.mergeSort le).Pairwise fun a b => a.le b = true := by
  apply List.pairwise_mergeSort
  · intro a b c
    exact Candidate.le_trans
  · exact Candidate.le_total

/-- Sorting leaves the candidates of one specifier as they were given. -/
theorem filter_display_mergeSort (l : List Candidate) (text : String) :
    (l.mergeSort le).filter (·.display = text) = l.filter (·.display = text) := by
  apply filter_mergeSort
  · intro a b c
    exact Candidate.le_trans
  · exact Candidate.le_total
  · intro a b ha hb
    rw [decide_eq_true_eq] at ha hb
    exact le_of_display_eq (ha.trans hb.symm)

end Candidate

/-- What an item says of its module. -/
def Item.candidate (i : Item) : Candidate := ⟨i.display, i.description, i.origin⟩

/-- Items offer the modules of the runtime and those of the project as one list. -/
structure OffersMerged (builtins project : List Candidate) (quote : Option Quote)
    (defaultQuote : String) (items : List Item) : Prop where
  /-- Every module given has one item, which says what was said of it, and there are no others. -/
  perm : (items.map Item.candidate).Perm (builtins ++ project)
  /-- Behind a specifier that begins with a dot all do. -/
  relative_last : items.Pairwise fun a b => ['.'] <+: a.display.toList → ['.'] <+: b.display.toList
  /-- Those that begin with a dot come in code point order, and so do the others. -/
  in_order : items.Pairwise fun a b =>
    (['.'] <+: a.display.toList ↔ ['.'] <+: b.display.toList) → a.display ≤ b.display
  /-- The modules of one specifier come as they were given, those of the runtime first. -/
  stable : ∀ text, (items.filter (·.display = text)).map Item.candidate =
    builtins.filter (·.display = text) ++ project.filter (·.display = text)
  /-- Where no quotation mark has been typed, a commit inserts the default one on both sides. -/
  insertion_unquoted : quote = none → ∀ i ∈ items,
    i.insertion = defaultQuote ++ i.display ++ defaultQuote
  /-- Otherwise it inserts the one that was typed, behind the specifier. -/
  insertion_quoted : ∀ q, quote = some q → ∀ i ∈ items,
    i.insertion = i.display ++ String.singleton q.char

variable (builtins project : List Candidate) (quote : Option Quote) (span : Span)
  (defaultQuote : String)

/-- The modules that the items of a set come from are those given, sorted. -/
theorem map_candidate_assemble :
    (assemble builtins project quote span defaultQuote).items.map Item.candidate =
      (builtins ++ project).mergeSort Candidate.le := by
  rw [assemble, List.map_map]
  exact List.map_id _

/-- The items that show a text are those of the modules with that specifier. -/
theorem map_candidate_filter (items : List Item) (text : String) :
    (items.filter (·.display = text)).map Item.candidate =
      (items.map Item.candidate).filter (·.display = text) := by
  rw [List.filter_map]
  rfl

/-- A set of modules offers those of the runtime and those of the project, merged. -/
theorem assemble_offersMerged : OffersMerged builtins project quote defaultQuote
    (assemble builtins project quote span defaultQuote).items := by
  have hcandidates := map_candidate_assemble builtins project quote span defaultQuote
  have hsorted := Candidate.pairwise_mergeSort (builtins ++ project)
  rw [← hcandidates, List.pairwise_map] at hsorted
  constructor
  case perm =>
    rw [hcandidates]
    exact List.mergeSort_perm _ _
  case relative_last =>
    refine hsorted.imp fun {a b} hab => ?_
    have hrelative := (Candidate.le_iff.mp hab).1
    rwa [Candidate.isRelative_iff, Candidate.isRelative_iff] at hrelative
  case in_order =>
    refine hsorted.imp fun {a b} hab hgroup => ?_
    apply (Candidate.le_iff.mp hab).2
    rw [Bool.eq_iff_iff, Candidate.isRelative_iff, Candidate.isRelative_iff]
    exact hgroup
  case stable =>
    intro text
    rw [map_candidate_filter, hcandidates, Candidate.filter_display_mergeSort, List.filter_append]
  case insertion_unquoted =>
    rintro rfl i hi
    obtain ⟨c, -, rfl⟩ := List.mem_map.mp hi
    rfl
  case insertion_quoted =>
    rintro q rfl i hi
    obtain ⟨c, -, rfl⟩ := List.mem_map.mp hi
    exact String.push_eq_append q.char

/-- A module of the project that is called like one of the runtime is offered too, behind it. -/
example :
    (assemble [⟨"fs", "files", .builtin⟩] [⟨"./b", "", .project⟩, ⟨"fs", "", .project⟩] none
      (.empty 0) "'").items.map (fun i => (i.insertion, i.origin)) =
      [("'fs'", .builtin), ("'fs'", .project), ("'./b'", .project)] := by
  cbv

end ModuleHints

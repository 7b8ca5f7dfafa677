import Mathlib.Data.List.Nodup
import ModuleHints.Files.Disk
import ModuleHints.Proofs.Files.Names
import ModuleHints.Proofs.Text.Sorting

/-!
# Disks as systems keep them

On a disk no two things have one name in one folder, and every name is one that a file may have. All
that happens to a disk keeps it so. A folder that can be listed is then found at its own names, and
what it holds is there below it, each thing under a name of its own.
-/

namespace ModuleHints.Disk

/-- A disk of which every place has one thing at most, and a name that a file may have. -/
structure WellFormed (d : Disk) : Prop where
  /-- No place is there twice. -/
  nodup : (d.items.map Prod.fst).Nodup
  /-- Every name may name a file. -/
  isFileName : ∀ names ∈ d.items.map Prod.fst, ∀ n ∈ names, isFileName n = true

section Changes

variable {d : Disk}

theorem wellFormed_empty : WellFormed {} := ⟨List.nodup_nil, fun _ h => absurd h List.not_mem_nil⟩

/-- Putting one thing in place keeps a disk well formed. -/
theorem WellFormed.put (h : d.WellFormed) {names : List String}
    (hnames : ∀ n ∈ names, ModuleHints.isFileName n = true) (item : DiskItem) :
    (d.put names item).WellFormed := by
  have hkept : ((d.items.filter fun i => i.1 ≠ names).map Prod.fst).Sublist
      (d.items.map Prod.fst) :=
    (List.filter_sublist ..).map _
  have hkeys : (d.put names item).items.map Prod.fst =
      (d.items.filter fun i => i.1 ≠ names).map Prod.fst ++ [names] := by
    simp [Disk.put]
  constructor
  · rw [hkeys, List.nodup_append]
    refine ⟨h.nodup.sublist hkept, List.nodup_singleton _, ?_⟩
    rintro key hkey _ hlast rfl
    rw [List.mem_singleton] at hlast
    obtain ⟨i, hi, rfl⟩ := List.mem_map.mp hkey
    simp [hlast] at hi
  · rw [hkeys]
    intro key hkey
    rcases List.mem_append.mp hkey with hkey | hkey
    · exact h.isFileName key (hkept.subset hkey)
    · rw [List.mem_singleton.mp hkey]
      exact hnames

/-- Making a folder keeps a disk well formed. -/
theorem WellFormed.makeFolder (h : d.WellFormed) {names : List String}
    (hnames : ∀ n ∈ names, ModuleHints.isFileName n = true) : (d.makeFolder names).WellFormed := by
  rw [Disk.makeFolder]
  split
  · exact h
  · exact h.put hnames _

/-- Making all the folders of a path keeps a disk well formed. -/
theorem WellFormed.makeFolders (h : d.WellFormed) {p : Path} (hp : p.Proper) :
    (d.makeFolders p).WellFormed := by
  rw [Disk.makeFolders]
  generalize List.range p.names.length = sizes
  induction sizes generalizing d with
  | nil => exact h
  | cons n rest ih =>
    exact ih (h.makeFolder fun m hm => hp.2 m (List.mem_of_mem_take hm))

/-- Writing a file keeps a disk well formed. -/
theorem WellFormed.write (h : d.WellFormed) {p : Path} (hp : p.Proper) (content : ByteArray) :
    (d.write p content).WellFormed := by
  have hparent : p.parent.Proper := ⟨hp.1, fun n hn => hp.2 n (List.dropLast_subset _ hn)⟩
  exact (h.makeFolders hparent).put hp.2 _

/-- Removing a place keeps a disk well formed. -/
theorem WellFormed.remove (h : d.WellFormed) (p : Path) : (d.remove p).WellFormed := by
  have hkept : ((d.remove p).items.map Prod.fst).Sublist (d.items.map Prod.fst) :=
    (List.filter_sublist ..).map _
  exact ⟨h.nodup.sublist hkept, fun names hn => h.isFileName names (hkept.subset hn)⟩

theorem WellFormed.deny (h : d.WellFormed) (p : Path) : (d.deny p).WellFormed :=
  ⟨h.nodup, h.isFileName⟩

theorem WellFormed.allow (h : d.WellFormed) (p : Path) : (d.allow p).WellFormed :=
  ⟨h.nodup, h.isFileName⟩

end Changes

variable {d : Disk}

/-- A walk along names of files ends where the names lead. -/
theorem walk_eq {reached names out : List String} (h : d.walk reached names = .ok out)
    (hnames : ∀ n ∈ names, n = "" ∨ isFileName n = true) :
    out = reached ++ names.filter (· ≠ "") := by
  induction names generalizing reached with
  | nil =>
    cases h
    simp
  | cons n rest ih =>
    have hrest : ∀ m ∈ rest, m = "" ∨ isFileName m = true :=
      fun m hm => hnames m (List.mem_cons_of_mem _ hm)
    rw [walk] at h
    split at h
    · cases h
    · cases h
    · by_cases hempty : n = ""
      · rw [if_pos (.inl hempty)] at h
        rw [ih h hrest, hempty]
        simp
      · have hn := (hnames n (List.mem_cons_self ..)).resolve_left hempty
        simp only [isFileName, Bool.and_eq_true, bne_iff_ne] at hn
        obtain ⟨⟨⟨-, hdot⟩, hdots⟩, -⟩ := hn
        rw [if_neg (by simp [hempty, hdot]), if_neg hdots] at h
        split at h
        · cases h
        · split at h
          · rw [ih h hrest]
            simp [hempty]
          · cases h

/-- A proper path that is found is found at its own names. -/
theorem find_eq {p here : Path} (hp : p.Proper) {out : List String}
    (h : d.find here p.toString = .ok out) : out = p.names := by
  obtain ⟨hnames, hpieces⟩ := Path.written_toString hp
  rw [find] at h
  split at h
  · cases h
  · split at h
    · cases h
    · split at h
      · cases h
      · rw [walk_eq h hpieces, hnames, List.nil_append]
      next hanchor => exact absurd hanchor (Path.anchorOf_toString hp.1)

/-- What the disk keeps for a folder is what stands one name below it. -/
theorem mem_entriesOf_iff {folder : List String} {e : String × Bool} :
    e ∈ d.entriesOf folder ↔ ∃ item, (folder ++ [e.1], item) ∈ d.items ∧ item.isFolder = e.2 := by
  constructor
  · intro he
    obtain ⟨⟨names, item⟩, hitem, he⟩ := List.mem_filterMap.mp he
    simp only at he
    split at he
    next hfolder =>
      obtain ⟨n, hn, rfl⟩ := Option.map_eq_some_iff.mp he
      have hnames : names = folder ++ [n] := by
        rw [← hfolder]
        exact (List.dropLast_append_getLast? n hn).symm
      exact ⟨item, hnames ▸ hitem, rfl⟩
    next => cases he
  · rintro ⟨item, hitem, hfolder⟩
    refine List.mem_filterMap.mpr ⟨_, hitem, ?_⟩
    dsimp only
    rw [List.dropLast_concat, if_pos rfl, List.getLast?_concat, Option.map_some, hfolder]

/-- No folder holds two things of one name. -/
theorem WellFormed.nodup_entriesOf (h : d.WellFormed) (folder : List String) :
    ((d.entriesOf folder).map Prod.fst).Nodup := by
  have hnames : (d.entriesOf folder).map Prod.fst =
      (d.items.map Prod.fst).filterMap fun names =>
        if names.dropLast = folder then names.getLast? else none := by
    rw [entriesOf, List.map_filterMap, List.filterMap_map]
    congr 1
    funext i
    simp only [Function.comp]
    split
    · cases i.1.getLast? <;> rfl
    · rfl
  rw [hnames]
  apply h.nodup.filterMap
  intro names others n hn ho
  rw [Option.mem_def, Option.ite_none_right_eq_some] at hn ho
  rw [← List.dropLast_append_getLast? n hn.2, ← List.dropLast_append_getLast? n ho.2, hn.1, ho.1]

/-- What is listed of a proper path is what the disk keeps for it. -/
theorem eq_of_list {p : Path} (hp : p.Proper) {entries : List (String × Bool)}
    (hlist : d.list p = .ok entries) :
    entries = (d.entriesOf p.names).mergeSort fun a b => a.1 ≤ b.1 := by
  rw [list] at hlist
  split at hlist
  · cases hlist
  · split at hlist
    · cases hlist
    next names hfind =>
      split at hlist
      · cases hlist
        rw [find_eq hp hfind]
      · cases hlist
      · cases hlist

/-- What is listed of a proper path is what stands one name below it. -/
theorem mem_of_list {p : Path} (hp : p.Proper) {entries : List (String × Bool)}
    (hlist : d.list p = .ok entries) (e : String × Bool) :
    e ∈ entries ↔ ∃ item, (p.names ++ [e.1], item) ∈ d.items ∧ item.isFolder = e.2 := by
  rw [eq_of_list hp hlist, List.mem_mergeSort, mem_entriesOf_iff]

/-- What is listed of a proper path is what stands below it, each thing under a name of its own. -/
theorem WellFormed.of_list (h : d.WellFormed) {p : Path} (hp : p.Proper)
    {entries : List (String × Bool)} (hlist : d.list p = .ok entries) :
    (entries.map Prod.fst).Nodup ∧ ∀ e ∈ entries, p.names ++ [e.1] ∈ d.items.map Prod.fst := by
  constructor
  · rw [eq_of_list hp hlist]
    have hperm := List.mergeSort_perm (d.entriesOf p.names) fun a b => a.1 ≤ b.1
    exact ((hperm.map Prod.fst).nodup_iff).mpr (h.nodup_entriesOf p.names)
  · intro e he
    obtain ⟨item, hitem, -⟩ := (mem_of_list hp hlist e).mp he
    exact List.mem_map_of_mem hitem

/-- What is listed of a proper path comes in the order of the names. -/
theorem WellFormed.pairwise_of_list (h : d.WellFormed) {p : Path} (hp : p.Proper)
    {entries : List (String × Bool)} (hlist : d.list p = .ok entries) :
    entries.Pairwise fun a b => a.1 < b.1 := by
  rw [eq_of_list hp hlist]
  exact pairwise_lt_mergeSort_by (h.nodup_entriesOf p.names)

section Unnameable

/-- A walk from folder to folder asks for each of them by a name that it has met. -/
theorem walk_ne_unnameable (d : Disk) (reached names : List String) :
    d.walk reached names ≠ .error .unnameable := by
  induction names generalizing reached with
  | nil => exact nofun
  | cons n rest ih =>
    rw [walk]
    split
    · exact nofun
    · exact nofun
    · split
      · exact ih _
      · split
        · exact ih _
        · split
          · exact nofun
          · split
            · exact ih _
            · exact nofun

/-- A folder for which the system could not even be asked has a NUL in its path. -/
theorem unnameable_of_list {folder : Path} {e : DiskError} (h : d.list folder = .error e)
    (hfound : e.isFound = false) :
    e = ⟨.unnameable, folder.toString⟩ ∧ '\x00' ∈ folder.toString.toList := by
  have hfault : e.fault = .unnameable := by
    obtain ⟨fault, place⟩ := e
    cases fault <;> simp [DiskError.isFound, DiskFault.number?] at hfound ⊢
  rw [list] at h
  split at h
  · cases h
    cases hfault
  · split at h
    next fault hfind =>
      cases h
      cases hfault
      refine ⟨rfl, ?_⟩
      rw [find] at hfind
      split at hfind
      next hnul => exact List.contains_iff_mem.mp hnul
      · split at hfind
        · cases hfind
        · split at hfind
          · cases hfind
          · exact absurd hfind (d.walk_ne_unnameable _ _)
          · split at hfind
            · cases hfind
            · exact absurd hfind (d.walk_ne_unnameable _ _)
    · split at h
      · cases h
      · cases h
        cases hfault
      · cases h
        cases hfault

end Unnameable

section Eased

/-- The second disk has on it what the first one has, and no folder refuses there that does not
refuse here. -/
structure Eased (d d₀ : Disk) : Prop where
  /-- The disks hold the same. -/
  items : d₀.items = d.items
  /-- No more folders refuse. -/
  refusing : d₀.refusing ⊆ d.refusing

theorem Eased.refl (d : Disk) : d.Eased d := ⟨rfl, List.Subset.refl _⟩

/-- A disk on which no folder refuses eases every disk that holds the same. -/
theorem eased_of_items {d d₀ : Disk} (h : d₀.items = d.items) (hnone : d₀.refusing = []) :
    d.Eased d₀ := ⟨h, hnone ▸ List.nil_subset _⟩

theorem WellFormed.of_items {d d₀ : Disk} (hd : d.WellFormed) (h : d₀.items = d.items) :
    d₀.WellFormed := ⟨h ▸ hd.nodup, h ▸ hd.isFileName⟩

/-- Where names lead is read off what a disk holds. -/
theorem walk_congr {d d₀ : Disk} (h : d₀.items = d.items) (reached names : List String) :
    d₀.walk reached names = d.walk reached names := by
  have hitem : d₀.itemAt? = d.itemAt? := by
    funext others
    rw [itemAt?, itemAt?, h]
  induction names generalizing reached with
  | nil => rfl
  | cons n rest ih => simp only [walk, hitem, ih]

/-- What a disk lists is listed where no more folders refuse. -/
theorem Eased.list_eq {d d₀ : Disk} (h : d.Eased d₀) {p : Path} {entries : List (String × Bool)}
    (hlist : d.list p = .ok entries) : d₀.list p = .ok entries := by
  have hfind : d₀.find p p.toString = d.find p p.toString := by
    simp only [find, walk_congr h.items]
  have hitem : d₀.itemAt? = d.itemAt? := by
    funext others
    rw [itemAt?, itemAt?, h.items]
  have hentries : d₀.entriesOf = d.entriesOf := by
    funext others
    rw [entriesOf, entriesOf, h.items]
  rw [list] at hlist ⊢
  split at hlist
  · cases hlist
  next hrefuses =>
    have hrefuses₀ : ¬d₀.refusing.contains p = true := by
      rw [List.contains_iff_mem] at hrefuses ⊢
      exact fun hmem => hrefuses (h.refusing hmem)
    rw [if_neg hrefuses₀, hfind, hitem, hentries]
    exact hlist

end Eased

end ModuleHints.Disk

import ModuleHints.Proofs.Project.Asked
import ModuleHints.Proofs.Project.Entries
import ModuleHints.Proofs.Project.Planted

/-!
# Nodes that are found again

A forgotten listing parks its nodes, and the next listing takes them back. So a node is found again,
however often listings are forgotten and made anew, as long as each listing that is made anew shows
what leads on to the node: every folder around it then lists the next one or has it parked, and the
node at its path is no other.
-/

namespace ModuleHints.Forest

/-- The present listing of a folder. -/
def listing? (f : Forest) (k : NodeId) : Option (List NodeId) := (f.node? k).bind Node.listing

/-- The name and the kind of a node, under which its folder has an entry for it. -/
def entry (f : Forest) (k : NodeId) : String × Bool := (f.name k, f.isFolder k)

/-- A folder lists a node, or has it parked and takes it back for its entry. -/
inductive Retains (f : Forest) (folder k : NodeId) : Prop where
  | listed {n : Node} {held : List NodeId} : f.node? folder = some n → n.listing = some held →
    k ∈ held → Retains f folder k
  | parked {n : Node} : f.node? folder = some n → n.listing = none →
    n.parked.find? (f.isEntry (f.entry k)) = some k → Retains f folder k

/-- Every folder from a root down to a node retains what leads on to the node. -/
inductive Retained (f : Forest) (root : NodeId) : NodeId → Prop where
  | refl : Retained f root root
  | within {p k : NodeId} : Retained f root p → f.parent? k = some p → f.Retains p k →
    Retained f root k

variable {d : Disk} {f f' : Forest} {folder root p j k : NodeId} {n : Node} {held : List NodeId}

theorem listing?_eq (h : f.node? k = some n) : f.listing? k = n.listing := by
  rw [listing?, h, Option.bind_some]

theorem entry_of_place {q : Place} (h : f.place k = q) : f.entry k = (q.path.name, q.isFolder) := by
  rw [← h]
  rfl

theorem entry_congr (h : f'.place j = f.place k) : f'.entry j = f.entry k :=
  entry_of_place h

/-- Where listings lead, nodes are retained. -/
theorem Reached.retained (h : f.Reached root k) : f.Retained root k := by
  induction h with
  | refl => exact .refl
  | listed _ hparent hlists ih =>
    obtain ⟨n, held, hn, hlisting, hmem⟩ := hlists
    exact .within ih hparent (.listed hn hlisting hmem)

/-- No retained node has a shorter path than the root. -/
theorem Retained.length_le (h : f.Retained root k) (hf : f.Tidy) :
    (f.path root).names.length ≤ (f.path k).names.length := by
  induction h with
  | refl => exact Nat.le_refl _
  | within _ hparent _ ih =>
    obtain ⟨name, hname⟩ := hf.path_eq_child hparent
    rw [hname, Path.child, List.length_append]
    exact Nat.le_trans ih (Nat.le_add_right _ _)

/-- The nodes of a listing that fit an entry are one. -/
theorem Tidy.eq_of_isEntry (hf : f.Tidy) (hn : f.node? p = some n) (hlisting : n.listing = some held)
    (hk : k ∈ held) (hj : j ∈ held) (h : f.isEntry (f.entry k) j = true) : j = k := by
  obtain ⟨m, hm, -⟩ := exists_node_of_parent? (hf.held hn hlisting hj)
  obtain ⟨name, hname⟩ := hf.path_eq_child (hf.held hn hlisting hj)
  obtain ⟨name', hname'⟩ := hf.path_eq_child (hf.held hn hlisting hk)
  rw [isEntry, hm, Option.any_some, Bool.and_eq_true, beq_iff_eq, Node.name, ← path_eq hm, hname,
    entry, Forest.name, hname', Path.name_child, Path.name_child] at h
  exact List.inj_on_of_nodup_map (hf.distinct hn hlisting) hj hk (by rw [hname, hname', h.1])

section Refresh

/-- Forgetting the listings below a folder forgets those to which listings lead from it, and no
other. -/
theorem Found.listing?_refresh (hf : f.Found) (folder k : NodeId) :
    (f.Reached folder k → (f.refresh folder).listing? k = none) ∧
      (¬f.Reached folder k → (f.refresh folder).listing? k = f.listing? k) := by
  have hreaches : f.reaches folder k = true ↔ f.Reached folder k := hf.reaches_iff
  rw [listing?, listing?, node?_refresh]
  cases f.node? k with
  | none => exact ⟨fun _ => rfl, fun _ => rfl⟩
  | some n =>
    rw [Option.map_some, Option.bind_some, Option.bind_some, ← hreaches]
    constructor
    · intro h
      rw [if_pos h]
      exact n.listing_forget
    · intro h
      rw [if_neg h]

/-- A node that had no listing or that listings led to has none after the refresh. -/
theorem Found.listing?_refresh_eq_none (hf : f.Found)
    (h : f.Reached folder k ∨ f.listing? k = none) : (f.refresh folder).listing? k = none := by
  obtain ⟨hreached, hnot⟩ := hf.listing?_refresh folder k
  by_cases hk : f.Reached folder k
  · exact hreached hk
  · exact (hnot hk).trans (h.resolve_left hk)

/-- No listing leads from a folder that has none. -/
theorem Reached.eq_of_listing? (h : f.Reached folder k) (hnone : f.listing? folder = none) :
    k = folder := by
  induction h with
  | refl => rfl
  | listed _ _ hlists ih =>
    subst ih
    obtain ⟨n, held, hn, hheld, -⟩ := hlists
    rw [listing?_eq hn, hheld] at hnone
    cases hnone

/-- A folder without a listing has nothing to forget. -/
theorem Found.refresh_eq (hf : f.Found) (hnone : f.listing? folder = none) :
    f.refresh folder = f := by
  have hsame : ∀ k n, f.node? k = some n → (if f.reaches folder k then n.forget else n) = n := by
    intro k n hn
    split
    next h =>
      have hk := (hf.reaches_iff.mp h).eq_of_listing? hnone
      subst hk
      rw [listing?_eq hn] at hnone
      rw [Node.forget, hnone]
    next => rfl
  rw [Forest.refresh]
  apply congrArg Forest.mk
  apply Array.ext
  · exact Array.size_mapIdx
  · intro k hk hk'
    rw [Array.getElem_mapIdx]
    exact hsame k _ (Array.getElem?_eq_getElem hk')

/-- Nodes fit the same entries when listings are forgotten. -/
theorem isEntry_refresh (f : Forest) (folder : NodeId) (e : String × Bool) :
    (f.refresh folder).isEntry e = f.isEntry e := by
  funext j
  rw [isEntry, isEntry, node?_refresh]
  cases f.node? j with
  | none => rfl
  | some m =>
    obtain ⟨hpath, -, hfolder, -⟩ := forget_eq m
    rw [Option.map_some, Option.any_some, Option.any_some]
    split
    · rw [Node.name, Node.name, hpath, hfolder]
    · rfl

theorem isEntry_self (hk : f.node? k = some n) : f.isEntry (f.entry k) k = true := by
  rw [isEntry, hk, Option.any_some, entry, name, path_eq hk, isFolder_eq hk, Node.name]
  simp

/-- A folder that forgets its listing retains the nodes of the listing. -/
theorem Retains.refresh (h : f.Retains p k) (hf : f.Tidy) (folder : NodeId) :
    (f.refresh folder).Retains p k := by
  have hentry := entry_congr (place_refresh f folder k)
  cases h with
  | @listed n held hn hlisting hmem =>
    have hnode := node?_refresh f folder p
    rw [hn, Option.map_some] at hnode
    split at hnode
    · have hforget : n.forget = { n with listing := none, parked := held } := by
        rw [Node.forget, hlisting]
      rw [hforget] at hnode
      refine .parked hnode rfl ?_
      rw [hentry, isEntry_refresh]
      obtain ⟨m, hm, -⟩ := exists_node_of_parent? (hf.held hn hlisting hmem)
      obtain ⟨j, hfind⟩ := Option.isSome_iff_exists.mp
        (List.find?_isSome.mpr ⟨k, hmem, isEntry_self hm⟩)
      rw [hfind, hf.eq_of_isEntry hn hlisting hmem (List.mem_of_find?_eq_some hfind)
        (List.find?_some hfind)]
    · exact .listed hnode hlisting hmem
  | @parked n hn hlisting hfind =>
    have hforget : n.forget = n := by rw [Node.forget, hlisting]
    have hnode := node?_refresh f folder p
    rw [hn, Option.map_some, hforget, ite_self] at hnode
    refine .parked hnode hlisting ?_
    rwa [hentry, isEntry_refresh]

/-- Forgetting listings retains what was retained. -/
theorem Retained.refresh (h : f.Retained root k) (hf : f.Tidy) (folder : NodeId) :
    (f.refresh folder).Retained root k := by
  induction h with
  | refl => exact .refl
  | within _ hparent hretains ih =>
    exact .within ih ((parent?_refresh ..).trans hparent) (hretains.refresh hf folder)

end Refresh

section Keeps

/-- A folder that stays as it is retains what it did. -/
theorem Retains.keeps (h : f.Retains p k) (hf : f.Tidy) (hkeeps : f.Keeps f')
    (hparent : f.parent? k = some p) (hsame : f'.node? p = f.node? p) : f'.Retains p k := by
  obtain ⟨m, hm, -⟩ := exists_node_of_parent? hparent
  have hentry := entry_congr (hkeeps.place_eq hm)
  cases h with
  | listed hn hlisting hmem => exact .listed (hsame.trans hn) hlisting hmem
  | @parked n hn hlisting hfind =>
    refine .parked (hsame.trans hn) hlisting ?_
    rw [hentry, hkeeps.find?_isEntry, hfind]
    intro i hi
    obtain ⟨u, hu, -⟩ := exists_node_of_parent? (hf.parked hn hi)
    exact ⟨u, hu⟩

/-- A new root retains what was retained. -/
theorem Retained.plant (h : f.Retained root k) (hf : f.Tidy) (home : Path) :
    (f.plant home).2.Retained root k := by
  induction h with
  | refl => exact .refl
  | @within p k _ hparent hretains ih =>
    have hkeeps := keeps_plant f home
    have hsame : (f.plant home).2.node? p = f.node? p := by
      obtain ⟨n, hn, hp⟩ := exists_node_of_parent? hparent
      obtain ⟨-, m, -, hm, -⟩ := hf.parent hn hp
      rw [Forest.plant, node?_grow, if_neg (Nat.ne_of_lt (lt_size hm))]
    exact .within ih (hkeeps.parent? hparent) (hretains.keeps hf hkeeps hparent hsame)

end Keeps

section Asked

/-- A folder that is given a listing retains a node where the disk still has its place. -/
theorem Retains.asked (h : f.Retains p k) (hf : f.Tidy) (hasked : f.Asked d f')
    (hparent : f.parent? k = some p)
    (hshown : f.listing? p = none → f'.listing? p ≠ none → d.Holds (f.path p) (f.place k)) :
    f'.Retains p k := by
  obtain ⟨u, hu, hp⟩ := exists_node_of_parent? hparent
  obtain ⟨-, n, -, hn, -⟩ := hf.parent hu hp
  obtain ⟨n', hn', hbecame⟩ := hasked.became hf.found.parkedBelow hn
  cases hbecame with
  | same => exact h.keeps hf (hasked.keeps hf.found.parkedBelow).1 hparent (hn'.trans hn.symm)
  | @given entries held hlisting hlist _ _ htakes =>
    have hholds : d.Holds (f.path p) (f.place k) := by
      apply hshown
      · rw [listing?, hn, Option.bind_some, hlisting]
      · rw [listing?, hn', Option.bind_some]
        exact Option.some_ne_none held
    have hentry : f.entry k ∈ entries := by
      obtain ⟨name, item, hitem, hplace⟩ := hholds
      rw [path_eq hn] at hitem
      rw [entry_of_place hplace, Path.name_child, Disk.mem_of_list (hf.proper hn) hlist]
      exact ⟨item, hitem, rfl⟩
    cases h with
    | listed hn₂ hlisting₂ _ =>
      cases Option.some.inj (hn₂.symm.trans hn)
      cases hlisting₂.symm.trans hlisting
    | parked hn₂ _ hfind =>
      cases Option.some.inj (hn₂.symm.trans hn)
      exact .listed hn' rfl (htakes _ hentry k hfind)

/-- Asking retains a node where each listing that is made shows what leads on to it. -/
theorem Retained.asked (h : f.Retained root k) (hf : f.Tidy) (hasked : f.Asked d f')
    (hshown : ∀ i ∈ f.ancestors k, ∀ p, f.parent? i = some p → f.listing? p = none →
      f'.listing? p ≠ none → d.Holds (f.path p) (f.place i)) : f'.Retained root k := by
  induction h with
  | refl => exact .refl
  | @within p k _ hparent hretains ih =>
    have hancestors : f.ancestors k = k :: f.ancestors p := by
      rw [ancestors, hparent]
      exact if_pos (hf.found.parent_lt hparent)
    rw [hancestors] at hshown
    have hkeeps := (hasked.keeps hf.found.parkedBelow).1
    refine .within (ih fun i hi => hshown i (List.mem_cons_of_mem _ hi)) (hkeeps.parent? hparent) ?_
    exact hretains.asked hf hasked hparent (hshown k (List.mem_cons_self ..) p hparent)

/-- What a folder lists at the place of a retained node is the node. -/
theorem Retains.eq_of_place (h : f.Retains p k) (hf : f.Tidy) (hf' : f'.Tidy)
    (hasked : f.Asked d f') (hparent : f.parent? k = some p) (hlists : f'.Lists p j)
    (hplace : f'.place j = f.place k) : j = k := by
  obtain ⟨u, hu, hp⟩ := exists_node_of_parent? hparent
  obtain ⟨-, n, -, hn, -⟩ := hf.parent hu hp
  obtain ⟨n', hn', hbecame⟩ := hasked.became hf.found.parkedBelow hn
  obtain ⟨m, held, hm, hlisting, hj⟩ := hlists
  cases Option.some.inj (hm.symm.trans hn')
  have hk : k ∈ held := by
    cases h with
    | listed hn₂ hlisting₂ hmem =>
      cases Option.some.inj (hn₂.symm.trans hn)
      cases hbecame with
      | same =>
        cases Option.some.inj (hlisting₂.symm.trans hlisting)
        exact hmem
      | given hnone => cases hlisting₂.symm.trans hnone
    | parked hn₂ hnone hfind =>
      cases Option.some.inj (hn₂.symm.trans hn)
      cases hbecame with
      | same => cases hnone.symm.trans hlisting
      | given _ _ _ hplaces htakes =>
        cases hlisting
        have hmem := List.mem_map_of_mem (f := f'.place) hj
        rw [hplaces] at hmem
        obtain ⟨e, he, heq⟩ := List.mem_map.mp hmem
        rw [hplace] at heq
        rw [entry_of_place heq.symm, Path.name_child] at hfind
        exact htakes e he k hfind
  have hkeeps := (hasked.keeps hf.found.parkedBelow).1
  apply List.inj_on_of_nodup_map (hf'.distinct hn' hlisting) hj hk
  exact congrArg Place.path (hplace.trans (hkeeps.place_eq hu).symm)

/-- What listings lead to at the place of a retained node is the node. -/
theorem Retained.eq_of_place (h : f.Retained root k) (hr : f.IsRoot root) (hf : f.Tidy)
    (hf' : f'.Tidy) (hasked : f.Asked d f') (hj : f'.Reached root j)
    (hplace : f'.place j = f.place k) : j = k := by
  have hkeeps := (hasked.keeps hf.found.parkedBelow).1
  have hroot : f'.path root = f.path root := by
    obtain ⟨n, hn, -⟩ := hr
    exact congrArg Place.path (hkeeps.place_eq hn)
  have hpath := congrArg Place.path hplace
  change f'.path j = f.path k at hpath
  induction h generalizing j with
  | refl =>
    cases hj with
    | refl => rfl
    | listed hq hparent _ =>
      have hlonger := hf'.lt_length hq hparent
      rw [hpath, hroot] at hlonger
      exact absurd hlonger (Nat.lt_irrefl _)
  | @within p k hp hparent hretains ih =>
    obtain ⟨name, hname⟩ := hf.path_eq_child hparent
    cases hj with
    | refl =>
      have hle := hp.length_le hf
      rw [← hroot, hpath, hname, Path.child, List.length_append, List.length_singleton] at hle
      exact absurd hle (Nat.not_succ_le_self _)
    | @listed q _ hq hparent' hlists =>
      obtain ⟨name', hname'⟩ := hf'.path_eq_child hparent'
      have hparents : f'.path q = f.path p := by
        rw [hname, hname'] at hpath
        have hup := congrArg Path.parent hpath
        rwa [Path.parent_child, Path.parent_child] at hup
      have hfolders : f'.place q = f.place p := by
        rw [place, place, hparents, hf.isFolder_parent hparent, hf'.isFolder_parent hparent']
      have hsame := ih hq hfolders hparents
      subst hsame
      exact hretains.eq_of_place hf hf' hasked hparent hlists hplace

end Asked

end ModuleHints.Forest

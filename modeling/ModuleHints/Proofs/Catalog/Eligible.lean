import ModuleHints.Proofs.Project.Walk
import ModuleHints.Proofs.Catalog.OnDisk

/-!
# Eligible modules of a tree

Looking for the eligible modules of a file in a tree goes with looking for them on the disk: step
by step the nodes of the walk are at the places that the disk is asked about. The disk that is asked
may be one on which fewer folders refuse.
-/

namespace ModuleHints

open Walk

namespace Catalog

variable {s : Settings} {d d₀ : Disk} {T : NodeId → Prop} {f : Forest} {root k : NodeId}
  {p : Place} {pr : Project}

section Nodes

theorem isModulesFolder_eq (hk : f.At root k p) : isModulesFolder s f k = p.isModulesFolder s := by
  rw [isModulesFolder, Place.isModulesFolder, hk.name_eq]

theorem isSource_eq (hk : f.At root k p) : isSource s f k = p.isSource s := by
  rw [isSource, Place.isSource, hk.path_eq]

end Nodes

/-- Whether a folder is a package. -/
theorem follows_isPackage (hd : d.WellFormed) (h₀ : d.Eased d₀) (hf : SoundIn d₀ T f)
    (hk : f.At root k p) :
    Follows d d₀ T root (fun _ a b => a = b) f (isPackage s k) (p.isPackage s d₀) := by
  apply (follows_child? hd h₀ hf hk s.packageFile).bind
  intro f' found place hgrows hf' hfound
  cases hfound with
  | some _ => exact .pure hf' rfl
  | none =>
    apply (follows_child? hd h₀ hf' (hk.keeps hgrows.keeps) s.mainFile).bind
    intro f'' main mainPlace _ hf'' hmain
    cases hmain with
    | some _ => exact .pure hf'' rfl
    | none => exact .pure hf'' rfl

/-- What a node in a modules folder stands for. -/
theorem follows_packagesIn (hd : d.WellFormed) (h₀ : d.Eased d₀) (n : Nat) (hf : SoundIn d₀ T f)
    (hk : f.At root k p) :
    Follows d d₀ T root (AllAt root) f (packagesIn s n k)
      (Place.search d₀ (Place.packageTurn s d₀) n p) := by
  induction n generalizing f k p with
  | zero => exact .pure hf .nil
  | succ n ih =>
    apply (follows_children hd h₀ hf hk).bind
    intro f' held ps _ hf' hheld
    apply follows_collect hf' hheld
    intro f j q hf hj
    apply Follows.get
    simp only [Place.packageTurn, hj.isFolder_eq, isSource_eq hj, isModulesFolder_eq hj]
    cases q.isFolder with
    | false =>
      cases q.isSource s with
      | true => exact .pure hf (.cons hj .nil)
      | false => exact .pure hf .nil
    | true =>
      simp only [Bool.not_true, Bool.false_eq_true, if_false, bind_assoc]
      apply (follows_isPackage hd h₀ hf hj).bind
      intro f' b b' hgrows hf' hb
      subst hb
      cases b with
      | true => exact .pure hf' (.cons (hj.keeps hgrows.keeps) .nil)
      | false =>
        cases q.isModulesFolder s with
        | true => exact .pure hf' .nil
        | false => exact ih hf' (hj.keeps hgrows.keeps)

/-- What a node beside a file stands for. -/
theorem follows_sourcesIn (hd : d.WellFormed) (h₀ : d.Eased d₀) (n : Nat) (hf : SoundIn d₀ T f)
    (hk : f.At root k p) :
    Follows d d₀ T root (AllAt root) f (sourcesIn s n k)
      (Place.search d₀ (Place.sourceTurn s d₀) n p) := by
  induction n generalizing f k p with
  | zero => exact .pure hf .nil
  | succ n ih =>
    apply (follows_children hd h₀ hf hk).bind
    intro f' held ps _ hf' hheld
    apply follows_collect hf' hheld
    intro f j q hf hj
    apply Follows.get
    simp only [Place.sourceTurn, hj.isFolder_eq, isSource_eq hj, isModulesFolder_eq hj]
    cases q.isFolder with
    | false =>
      cases q.isSource s with
      | true => exact .pure hf (.cons hj .nil)
      | false => exact .pure hf .nil
    | true =>
      cases q.isModulesFolder s with
      | true => exact .pure hf .nil
      | false =>
        simp only [Bool.not_true, Bool.false_eq_true, if_false, bind_assoc]
        apply (follows_isPackage hd h₀ hf hj).bind
        intro f' b b' hgrows hf' hb
        subst hb
        cases b with
        | true => exact .pure hf' (.cons (hj.keeps hgrows.keeps) .nil)
        | false => exact ih hf' (hj.keeps hgrows.keeps)

/-- How deep a search may go is no matter where the disk is not deeper. -/
theorem search_of_depth (hd : d.WellFormed) (h₀ : d.Eased d₀) (hf : f.Tidy) (hk : f.At root k p)
    (turn : Place → Except DiskError Place.Turn) (f' : Forest) :
    Place.search d₀ turn (Place.depth d₀) p = Place.search d₀ turn (Walk.depth d f') p := by
  have hproper := hf.proper_of_at hk
  have hcovers := Place.covers_depth d f' p
  have hdeep : Place.Covers d₀ p (Walk.depth d f') := ⟨hcovers.pos, h₀.items ▸ hcovers.deep⟩
  exact Place.search_depth (hd.of_items h₀.items) turn hproper (Place.covers_depth d₀ {} p) hdeep

/-- The source files and packages in a folder. -/
theorem follows_sources (hd : d.WellFormed) (h₀ : d.Eased d₀) (hf : SoundIn d₀ T f)
    (hk : f.At root k p) :
    Follows d d₀ T root (AllAt root) f (sources s k)
      (Place.search d₀ (Place.sourceTurn s d₀) (Place.depth d₀) p) := by
  rw [search_of_depth hd h₀ hf.tidy hk _ f]
  exact .depthBound (follows_sourcesIn hd h₀ _ hf hk)

theorem candidate_eq {home : Path} (hr : f.At pr.root pr.root ⟨home, true⟩) (hk : f.At pr.root k p)
    (display : String) : candidate pr f display k = Place.candidate home display p := by
  rw [candidate, Place.candidate, Project.relativePath, hr.path_eq, hk.path_eq]

/-- The candidates in the modules folder of a folder. -/
theorem follows_modulesOf {home : Path} (hd : d.WellFormed) (h₀ : d.Eased d₀) (hf : SoundIn d₀ T f)
    (hr : f.At pr.root pr.root ⟨home, true⟩) (hk : f.At pr.root k p) :
    Follows d d₀ T pr.root (fun _ a b => a = b) f (modulesOf s pr k)
      (Place.modulesOf s d₀ home p) := by
  apply (follows_child? hd h₀ hf hk s.modulesFolder).bind
  intro f found place hgrows hf hfound
  cases hfound with
  | none => exact .pure hf rfl
  | @some m q hm =>
    apply Follows.get
    simp only [hm.isFolder_eq]
    cases q.isFolder with
    | false => exact .pure hf rfl
    | true =>
      simp only [Bool.not_true, Bool.false_eq_true, if_false]
      rw [search_of_depth hd h₀ hf.tidy hm _ f]
      apply Follows.depthBound
      apply (follows_packagesIn hd h₀ _ hf hm).bind
      intro f' held ps hgrows' hf' hheld
      refine Follows.get (.pure hf' (hheld.map_eq ?_))
      intro j r hj
      have hr' := hr.keeps (hgrows.trans hgrows').keeps
      have hm' := hm.keeps hgrows'.keeps
      rw [candidate_eq hr' hj, hm'.path_eq, hj.path_eq]

/-- The candidates in the modules folders of a list of folders. -/
theorem follows_modulesOfAll {home : Path} (hd : d.WellFormed) (h₀ : d.Eased d₀)
    (hf : SoundIn d₀ T f) (hr : f.At pr.root pr.root ⟨home, true⟩) {ks : List NodeId}
    {ps : List Place} (h : AllAt pr.root f ks ps) :
    Follows d d₀ T pr.root (fun _ a b => a = b) f (modulesOfAll s pr ks)
      (Place.modulesOfAll s d₀ home ps) := by
  induction ks generalizing f ps with
  | nil =>
    cases h
    exact .pure hf rfl
  | cons k rest ih =>
    cases h with
    | cons hk hrest =>
      apply (follows_modulesOf hd h₀ hf hr hk).bind
      intro f' first first' hgrows hf' hfirst
      have hrest' := AllAt.keeps hrest hgrows.keeps
      apply (ih hf' (hr.keeps hgrows.keeps) hrest').bind
      intro f'' others others' _ hf'' hothers
      subst hfirst hothers
      exact .pure hf'' rfl

/-- The candidates beside and below a file. -/
theorem follows_peers {home : Path} {file : NodeId} {q : Place} (hd : d.WellFormed)
    (h₀ : d.Eased d₀) (hf : SoundIn d₀ T f) (hr : f.At pr.root pr.root ⟨home, true⟩)
    (hk : f.At pr.root k p) (hfile : f.At pr.root file q) :
    Follows d d₀ T pr.root (fun _ a b => a = b) f (peers s pr k file)
      (Place.peers s d₀ home p q) := by
  apply (follows_sources hd h₀ hf hk).bind
  intro f' held ps hgrows hf' hheld
  have hfile' := hfile.keeps hgrows.keeps
  have hother : ∀ j r, f'.At pr.root j r → decide (j ≠ file) = decide (r ≠ q) :=
    fun j r hj => decide_eq_decide.mpr (not_congr (hf'.tidy.eq_iff hj hfile'))
  have hothers := hheld.filter hother
  refine Follows.get (.pure hf' (hothers.map_eq ?_))
  intro j r hj
  rw [candidate_eq (hr.keeps hgrows.keeps) hj, (hk.keeps hgrows.keeps).path_eq, hj.path_eq]

/-- The folders around a folder are at the places around its own. -/
theorem allAt_ancestors {home : Path} (hf : f.Tidy) (hr : f.At root root ⟨home, true⟩)
    (hk : f.Reached root k) (hfolder : f.isFolder k = true) :
    AllAt root f (f.ancestors k) (Place.enclosing home (f.path k)) := by
  induction hk with
  | refl =>
    have hancestors : f.ancestors root = [root] := by rw [Forest.ancestors, hr.isRoot.parent?]
    have hplaces : Place.enclosing home (f.path root) = [⟨home, true⟩] := by
      rw [hr.path_eq, Place.enclosing, if_pos rfl]
    rw [hancestors, hplaces]
    exact .cons hr .nil
  | @listed p k hp hparent hlists ih =>
    have hat := Forest.at_of_reached hr.isRoot (.listed hp hparent hlists)
    obtain ⟨name, hname⟩ := hf.path_eq_child hparent
    have hlonger := hf.lt_length hp hparent
    rw [hr.path_eq] at hlonger
    have hancestors : f.ancestors k = k :: f.ancestors p := by
      rw [Forest.ancestors, hparent]
      exact if_pos (hf.found.parent_lt hparent)
    have hhome : f.path k ≠ home := fun h => Nat.lt_irrefl _ (h ▸ hlonger)
    have hplaces : Place.enclosing home (f.path k) =
        ⟨f.path k, true⟩ :: Place.enclosing home (f.path p) := by
      rw [Place.enclosing, if_neg hhome, if_neg (by simp [hname, Path.child]), hname,
        Path.parent_child]
    rw [hancestors, hplaces]
    refine .cons ?_ (ih (hf.isFolder_parent hparent))
    rwa [Forest.place, hfolder] at hat

/-- All project modules that a file may require. -/
theorem follows_eligible {home : Path} {file : NodeId} {q : Place} (hd : d.WellFormed)
    (h₀ : d.Eased d₀) (hf : SoundIn d₀ T f) (hr : f.At pr.root pr.root ⟨home, true⟩)
    (hfile : f.At pr.root file q) :
    Follows d d₀ T pr.root (fun _ a b => a = b) f (eligible s pr file)
      (Place.eligible s d₀ home q) := by
  apply Follows.known
  cases hparent : f.parent? file with
  | none =>
    have hroot : q.path = home := by
      rw [← hfile.path_eq, hfile.eq_root hparent, hr.path_eq]
    rw [Place.eligible, if_pos hroot]
    exact .pure hf rfl
  | some k =>
    obtain ⟨hk, -⟩ := hfile.reached.of_parent? hr.isRoot hparent
    obtain ⟨name, hname⟩ := hf.tidy.path_eq_child hparent
    have hlonger := hf.tidy.lt_length hk hparent
    rw [hr.path_eq, hfile.path_eq] at hlonger
    have hhome : q.path ≠ home := fun h => Nat.lt_irrefl _ (h ▸ hlonger)
    have hfolder := hf.tidy.isFolder_parent hparent
    have hplace : f.path k = q.path.parent := by rw [← hfile.path_eq, hname, Path.parent_child]
    have hancestors := allAt_ancestors hf.tidy hr hk hfolder
    have hat := Forest.at_of_reached hr.isRoot hk
    rw [Forest.place, hfolder, hplace] at hat
    rw [hplace] at hancestors
    rw [Place.eligible, if_neg hhome]
    apply Follows.known
    apply (follows_modulesOfAll hd h₀ hf hr hancestors).bind
    intro f' modules modules' hgrows hf' hmodules
    have hk' := hat.keeps hgrows.keeps
    have hfile' := hfile.keeps hgrows.keeps
    apply (follows_peers hd h₀ hf' (hr.keeps hgrows.keeps) hk' hfile').bind
    intro f'' beside beside' _ hf'' hbeside
    subst hmodules hbeside
    exact .pure hf'' rfl

/-- On the disk itself the modules of a file are those of its place. -/
theorem agrees_eligible {c : Prop} {home : Path} {file : NodeId} {q : Place} (hd : d.WellFormed)
    (hf : Sound d c f) (hr : f.At pr.root pr.root ⟨home, true⟩) (hfile : f.At pr.root file q) :
    Agrees d c (fun _ a b => a = b) f (eligible s pr file) (Place.eligible s d home q) :=
  (follows_eligible hd (.refl d) (soundIn_iff.mpr hf) hr hfile).agrees

end Catalog

end ModuleHints

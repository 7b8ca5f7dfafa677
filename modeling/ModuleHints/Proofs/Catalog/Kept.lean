import Mathlib
import ModuleHints.Proofs.Catalog.Runs
import ModuleHints.Proofs.Project.Retained

/-!
# How long candidates are remembered

A catalog is asked about files of several projects while the disk changes, and is told now and then
that what it remembers of a file is out of date. That throws away the listings of the file's whole
tree; still every other file stays the same node as long as each new listing shows what leads on to
it, and so what is remembered of it is found again.
-/

namespace ModuleHints.Catalog

open Walk

section Walks

variable (s : Settings) (p : Project)

theorem plain_isPackage (k : NodeId) : (isPackage s k).Plain := by
  apply (plain_child? k s.packageFile).bind
  intro found
  split
  · exact plain_pure _
  · exact (plain_child? k s.mainFile).bind fun _ => plain_pure _

theorem plain_packagesIn (n : Nat) (k : NodeId) : (packagesIn s n k).Plain := by
  induction n generalizing k with
  | zero => exact plain_pure _
  | succ n ih =>
    refine (plain_children k).bind fun held => plain_collect (fun j => ?_) held
    refine plain_get.bind fun f => ?_
    split
    · exact plain_pure _
    · refine (plain_isPackage s j).bind fun isPackage => ?_
      split
      · exact plain_pure _
      · split
        · exact plain_pure _
        · exact ih j

theorem plain_sourcesIn (n : Nat) (k : NodeId) : (sourcesIn s n k).Plain := by
  induction n generalizing k with
  | zero => exact plain_pure _
  | succ n ih =>
    refine (plain_children k).bind fun held => plain_collect (fun j => ?_) held
    refine plain_get.bind fun f => ?_
    split
    · exact plain_pure _
    · split
      · exact plain_pure _
      · refine (plain_isPackage s j).bind fun isPackage => ?_
        split
        · exact plain_pure _
        · exact ih j

theorem plain_modulesOf (k : NodeId) : (modulesOf s p k).Plain := by
  refine (plain_child? k s.modulesFolder).bind fun found => ?_
  split
  · exact plain_pure _
  · refine plain_get.bind fun f => ?_
    split
    · exact plain_pure _
    · refine plain_depthBound.bind fun n => ?_
      exact (plain_packagesIn s n _).bind fun _ => plain_get.bind fun _ => plain_pure _

theorem plain_modulesOfAll (ks : List NodeId) : (modulesOfAll s p ks).Plain := by
  induction ks with
  | nil => exact plain_pure _
  | cons k rest ih => exact (plain_modulesOf s p k).bind fun _ => ih.bind fun _ => plain_pure _

theorem plain_peers (folder file : NodeId) : (peers s p folder file).Plain := by
  refine Plain.bind (plain_depthBound.bind fun n => plain_sourcesIn s n folder) fun _ => ?_
  exact plain_get.bind fun _ => plain_pure _

/-- Collecting the modules for a file asks for folders and does nothing else. -/
theorem plain_eligible (file : NodeId) : (eligible s p file).Plain := by
  refine (plain_known _).bind fun folder => ?_
  split
  · exact plain_pure _
  · refine (plain_known _).bind fun folders => (plain_modulesOfAll s p folders).bind fun _ => ?_
    exact (plain_peers s p _ file).bind fun _ => plain_pure _

end Walks

section Candidates

variable {s : Settings} {d : Disk} {here : Path} {p : Project} {path : String} {m : Memory}

/-- Being asked for candidates, a catalog asks for folders and remembers nothing new, or it remembers
the candidates that it has collected for the file that it found. -/
theorem candidates_cases (s : Settings) (d : Disk) (here : Path) (p : Project) (path : String)
    (m : Memory) :
    m.forest.Asked d (candidates s d here p path m).2.forest ∧
      ((candidates s d here p path m).2.cache = m.cache ∨
        ∃ file found f, (p.find? here path).go d m.forest = (.ok (some file), f) ∧
          f.isFolder file = false ∧ f.Asked d (candidates s d here p path m).2.forest ∧
          m.cache.get? file = none ∧
          (candidates s d here p path m).2.cache = m.cache.store file found) := by
  have hfind := (plain_find? p here path).asks
  have hproceeds := proceeds_candidates s d here p path m
  generalize candidates s d here p path m = out at hproceeds ⊢
  cases hproceeds with
  | lost hgo => exact ⟨hfind.asked hgo, .inl rfl⟩
  | absent hgo => exact ⟨hfind.asked hgo, .inl rfl⟩
  | folder hgo _ => exact ⟨hfind.asked hgo, .inl rfl⟩
  | remembered hgo _ _ => exact ⟨hfind.asked hgo, .inl rfl⟩
  | @unread k f f' e hgo _ _ hwalk =>
    have heligible := (plain_eligible s p k).asks.asked hwalk
    exact ⟨(hfind.asked hgo).trans heligible, .inl rfl⟩
  | @collected k f f' found hgo hfile hget hwalk =>
    have heligible := (plain_eligible s p k).asks.asked hwalk
    exact ⟨(hfind.asked hgo).trans heligible, .inr ⟨k, found, f, hgo, hfile, heligible, hget, rfl⟩⟩

/-- What is remembered of a file is answered without a walk. -/
theorem candidates_of_remembered {file : NodeId} {f : Forest} {found : List Candidate}
    (hfind : (p.find? here path).go d m.forest = (.ok (some file), f))
    (hfile : f.isFolder file = false) (hfound : m.cache.get? file = some found) :
    candidates s d here p path m =
      (⟨found, [.remembered (f.path file)]⟩, { m with forest := f }) := by
  simp only [candidates, hfind, hfile, hfound]
  rfl

/-- What is remembered stays remembered when the catalog is asked. -/
theorem get?_candidates {k : NodeId} {found : List Candidate} (h : m.cache.get? k = some found) :
    (candidates s d here p path m).2.cache.get? k = some found := by
  obtain ⟨-, hsame | ⟨file, others, -, -, -, -, hnone, hstore⟩⟩ :=
    candidates_cases s d here p path m
  · rw [hsame, h]
  · have hne : k ≠ file := by
      rintro rfl
      cases hnone.symm.trans h
    rw [hstore, Cache.get?_store_of_ne _ hne, h]

end Candidates

namespace World

variable {s : Settings} {here : Path} {w : World} {p : Project} {file : NodeId}
  {found : List Candidate}

/-- What happens spares what is remembered of a file: the file is not said to be out of date, and
where a folder around it is listed anew, the disk still has what leads on to the file. -/
structure Spares (s : Settings) (here : Path) (w : World) (file : NodeId) (e : Event) : Prop where
  /-- The file is not said to be out of date. -/
  not_invalidated : e ≠ .invalidated file
  /-- Neither are all files. -/
  not_cleared : e ≠ .cleared
  /-- What leads on to the file is there, with the kind that it had, at every new listing. -/
  shown : ∀ k ∈ w.memory.forest.ancestors file, ∀ folder, w.memory.forest.parent? k = some folder →
    w.memory.forest.listing? folder = none →
    (w.step s here e).memory.forest.listing? folder ≠ none →
    w.disk.Holds (w.memory.forest.path folder) (w.memory.forest.place k)

/-- To say that another file is out of date makes no listing, and so spares a file. -/
theorem spares_invalidated {k : NodeId} (h : k ≠ file) : w.Spares s here file (.invalidated k) where
  not_invalidated heq := h (Event.invalidated.inj heq)
  not_cleared := nofun
  shown := by
    intro _ _ folder _ hnone hsome
    refine absurd ?_ hsome
    rw [World.step, Memory.invalidate, Forest.listing?, Forest.node?_refresh]
    rw [Forest.listing?] at hnone
    cases hn : w.memory.forest.node? folder with
    | none => rfl
    | some n =>
      rw [hn, Option.bind_some] at hnone
      rw [Option.map_some, Option.bind_some]
      split
      · exact n.listing_forget
      · exact hnone

/-- A change of the disk makes no listing, and so spares a file. -/
theorem spares_changed {d : Disk} (hd : d.WellFormed) : w.Spares s here file (.changed d hd) where
  not_invalidated := nofun
  not_cleared := nofun
  shown _ _ _ _ hnone hsome := absurd hnone hsome

/-- To ask for candidates spares a file where the disk has all that leads on to it. -/
theorem spares_asked {path : String}
    (hshown : ∀ k ∈ w.memory.forest.ancestors file, ∀ folder,
      w.memory.forest.parent? k = some folder →
      w.disk.Holds (w.memory.forest.path folder) (w.memory.forest.place k)) :
    w.Spares s here file (.asked p path) where
  not_invalidated := nofun
  not_cleared := nofun
  shown k hk folder hparent _ _ := hshown k hk folder hparent

/-- All that happens spares what is remembered of a file. -/
def Spared (s : Settings) (here : Path) (file : NodeId) : World → List Event → Prop
  | _, [] => True
  | w, e :: rest => w.Spares s here file e ∧ Spared s here file (w.step s here e) rest

/-- A catalog remembers candidates of a file of a project, and the tree of the project retains the
file at its place. -/
structure Remembers (w : World) (p : Project) (file : NodeId) (q : Place)
    (found : List Candidate) : Prop where
  /-- The project is there. -/
  project : p ∈ w.projects
  /-- The candidates are remembered. -/
  cached : w.memory.cache.get? file = some found
  /-- The file is retained. -/
  retained : w.memory.forest.Retained p.root file
  /-- It is there. -/
  node : ∃ n, w.memory.forest.node? file = some n
  /-- It is at its place. -/
  place_eq : w.memory.forest.place file = q

variable {q : Place}

/-- What spares a remembered file leaves it remembered. -/
theorem Remembers.step (h : w.Remembers p file q found) (hw : w.Sound) {e : Event}
    (hspares : w.Spares s here file e) : (w.step s here e).Remembers p file q found := by
  obtain ⟨hproject, hcached, hretained, ⟨n, hn⟩, hplace⟩ := h
  cases e with
  | planted home =>
    have hkeeps := Forest.keeps_plant w.memory.forest ((Path.ofString home).absolute here)
    obtain ⟨m, hm, -⟩ := hkeeps file n hn
    exact ⟨List.mem_append_left _ hproject, hcached, hretained.plant hw.tidy _, ⟨m, hm⟩,
      (hkeeps.place_eq hn).trans hplace⟩
  | asked p' path =>
    have hshown := hspares.shown
    rw [World.step] at hshown ⊢
    split at hshown
    next hp =>
      rw [if_pos hp]
      obtain ⟨hasked, -⟩ := candidates_cases s w.disk here p' path w.memory
      have hkeeps := (hasked.keeps hw.tidy.found.parkedBelow).1
      obtain ⟨m, hm, -⟩ := hkeeps file n hn
      exact ⟨hproject, get?_candidates hcached, hretained.asked hw.tidy hasked hshown, ⟨m, hm⟩,
        (hkeeps.place_eq hn).trans hplace⟩
    next hp =>
      rw [if_neg hp]
      exact ⟨hproject, hcached, hretained, ⟨n, hn⟩, hplace⟩
  | invalidated k =>
    have hne : file ≠ k := by
      rintro rfl
      exact hspares.not_invalidated rfl
    refine ⟨hproject, (Cache.get?_erase_of_ne _ hne).trans hcached, hretained.refresh hw.tidy _, ?_,
      (Forest.place_refresh ..).trans hplace⟩
    exact ⟨_, by rw [World.step, Memory.invalidate, Forest.node?_refresh, hn, Option.map_some]⟩
  | cleared => exact absurd rfl hspares.not_cleared
  | changed d hd => exact ⟨hproject, hcached, hretained, ⟨n, hn⟩, hplace⟩

/-- What spares a remembered file, one thing after the other, leaves it remembered. -/
theorem Remembers.run (h : w.Remembers p file q found) (hw : w.Sound) (hhere : here.Proper)
    {events : List Event} (hspared : Spared s here file w events) :
    (w.run s here events).Remembers p file q found ∧ (w.run s here events).Sound := by
  induction events generalizing w with
  | nil => exact ⟨h, hw⟩
  | cons e rest ih => exact ih (h.step hw hspared.1) (hw.step hhere e) hspared.2

/-- A file that is found in a project is reached from its root, and the trees stay in order. -/
theorem Sound.at_of_find? (hw : w.Sound) (hp : p ∈ w.projects) {path : String} {k : NodeId}
    {f : Forest} (hfind : (p.find? here path).go w.disk w.memory.forest = (.ok (some k), f)) :
    f.Tidy ∧ f.At p.root k (f.place k) := by
  have hagrees := agrees_find? w.wellFormed (hw.memory (s := {})).forest (hw.root p hp) here path
  have hsound := hagrees.sound
  obtain ⟨place, hat, -⟩ := hagrees.ok _ (congrArg Prod.fst hfind)
  rw [hfind] at hat hsound
  cases hat with
  | some hk => exact ⟨hsound.tidy, hk.place_eq ▸ hk⟩

/-- A file is remembered once candidates have been stored for it. -/
theorem Sound.remembers_of_stored (hw : w.Sound) {path : String}
    (hnew : w.memory.cache.get? file = none)
    (hstored : (w.step s here (.asked p path)).memory.cache.get? file = some found) :
    ∃ q : Place, q.isFolder = false ∧
      (w.step s here (.asked p path)).Remembers p file q found := by
  rw [World.step] at hstored ⊢
  split at hstored
  next hp =>
    rw [if_pos hp]
    obtain ⟨-, hsame | ⟨file', found', f, hfind, hfile, hasked, -, hstore⟩⟩ :=
      candidates_cases s w.disk here p path w.memory
    · rw [hsame, hnew] at hstored
      cases hstored
    · have hsame : file = file' := by
        by_contra hne
        rw [hstore, Cache.get?_store_of_ne _ hne, hnew] at hstored
        cases hstored
      subst hsame
      obtain ⟨htidy, hat⟩ := hw.at_of_find? hp hfind
      have hkeeps := (hasked.keeps htidy.found.parkedBelow).1
      have hat' := hat.keeps hkeeps
      exact ⟨f.place file, hfile, hp, hstored, hat'.reached.retained, hat'.node, hat'.place_eq⟩
  next =>
    rw [hnew] at hstored
    cases hstored

/-- What is remembered of a file is answered whenever the file is found at its place. -/
theorem Remembers.candidates_eq (h : w.Remembers p file q found) (hw : w.Sound)
    (hq : q.isFolder = false) {path : String} {k : NodeId} {f : Forest}
    (hfind : (p.find? here path).go w.disk w.memory.forest = (.ok (some k), f))
    (hplace : f.place k = q) :
    candidates s w.disk here p path w.memory =
      (⟨found, [.remembered (f.path k)]⟩, { w.memory with forest := f }) := by
  obtain ⟨htidy, hat⟩ := hw.at_of_find? h.project hfind
  have hasked := (plain_find? p here path).asks w.disk w.memory.forest
  rw [hfind] at hasked
  have hsame : k = file := h.retained.eq_of_place (hw.root p h.project).isRoot hw.tidy htidy hasked
    hat.reached (hplace.trans h.place_eq.symm)
  subst hsame
  exact candidates_of_remembered hfind ((congrArg Place.isFolder hplace).trans hq) h.cached

/-- Once candidates have been stored for a file of a project, the catalog gives them, without a walk
and leaving what it remembers as it is, whenever it is asked for a path at which it finds the file, as
long as what happens in between spares the file; and to say that a file is out of date is to drop what
is remembered of that file and of no other. -/
theorem candidates_until_invalidated (hhere : here.Proper) (hw : w.Reachable s here) {path : String}
    (hnew : w.memory.cache.get? file = none)
    (hstored : (w.step s here (.asked p path)).memory.cache.get? file = some found)
    {after : List Event} (hspared : Spared s here file (w.step s here (.asked p path)) after) :
    let stored := w.step s here (.asked p path)
    let w' := stored.run s here after
    (∀ path' k f, (p.find? here path').go w'.disk w'.memory.forest = (.ok (some k), f) →
      f.place k = stored.memory.forest.place file →
      candidates s w'.disk here p path' w'.memory =
        (⟨found, [.remembered (f.path k)]⟩, { w'.memory with forest := f })) ∧
    ∀ g j, (w'.step s here (.invalidated g)).memory.cache.get? j =
      if j = g then none else w'.memory.cache.get? j := by
  intro stored w'
  have hsound : w.Sound := hw.sound hhere
  obtain ⟨q, hq, hremembers⟩ := hsound.remembers_of_stored hnew hstored
  obtain ⟨hlater, hsound'⟩ := hremembers.run (hsound.step hhere _) hhere hspared
  constructor
  · intro path' k f hfind hplace
    exact hlater.candidates_eq hsound' hq hfind (hplace.trans hremembers.place_eq)
  · intro g j
    split
    next hj =>
      subst hj
      exact Cache.get?_erase_self ..
    next hj => exact Cache.get?_erase_of_ne _ hj

/-- The file beside a remembered one is said to be out of date, a third one is made, and the folder is
listed anew for the second. -/
theorem candidates_until_invalidated_beside :
    let here := Path.ofString "/w"
    let hd := (Disk.wellFormed_empty.write (p := Path.ofString "/w/a.js") (by decide) .empty).write
      (p := Path.ofString "/w/b.js") (by decide) .empty
    let hd' := hd.write (p := Path.ofString "/w/c.js") (by decide) .empty
    let p : Project := ⟨here, 0⟩
    let found : List Candidate := [⟨"./b.js", "b.js (in project)", .project⟩]
    let after : List Event := [.invalidated 2, .changed _ hd', .asked p "b.js"]
    let w := run {} here { disk := _, wellFormed := hd } [.planted "/w"]
    let stored := w.step {} here (.asked p "a.js")
    let w' := stored.run {} here after
    here.Proper ∧ w.Reachable {} here ∧ w.memory.cache.get? 1 = none ∧
      stored.memory.cache.get? 1 = some found ∧ Spared {} here 1 stored after ∧
      (p.find? here "a.js").go w'.disk w'.memory.forest = (.ok (some 1), w'.memory.forest) ∧
      w'.memory.forest.place 1 = stored.memory.forest.place 1 ∧
      (candidates {} w'.disk here p "a.js" w'.memory).1.candidates = found := by
  intro here hd hd' p found after w stored w'
  have hhere : here.Proper := by decide
  have hreachable : w.Reachable {} here := ⟨_, hd, _, rfl⟩
  have hnew : w.memory.cache.get? 1 = none := by
    simp only [w, here]
    cbv
  have hstored : stored.memory.cache.get? 1 = some found := by
    simp only [stored, w, here, p, found]
    cbv
  let u := run {} here stored [.invalidated 2, .changed _ hd']
  have hforest : u.memory.forest = ⟨#[⟨⟨.root, ["w"]⟩, none, true, none, [1, 2]⟩,
      ⟨⟨.root, ["w", "a.js"]⟩, some 0, false, none, []⟩,
      ⟨⟨.root, ["w", "b.js"]⟩, some 0, false, none, []⟩]⟩ := by
    simp only [u, stored, w, here, p]
    cbv
  have hitems : u.disk.items = [(["w"], .folder), (["w", "a.js"], .file .empty),
      (["w", "b.js"], .file .empty), (["w", "c.js"], .file .empty)] := by
    simp only [u, stored, w, here, p]
    cbv
  have hshown : ∀ k ∈ u.memory.forest.ancestors 1, ∀ folder,
      u.memory.forest.parent? k = some folder →
      u.disk.Holds (u.memory.forest.path folder) (u.memory.forest.place k) := by
    have hancestors : u.memory.forest.ancestors 1 = [1, 0] := by
      rw [hforest]
      cbv
    have hparents : u.memory.forest.parent? 1 = some 0 ∧ u.memory.forest.parent? 0 = none := by
      rw [hforest]
      exact ⟨rfl, rfl⟩
    have hplaces : u.memory.forest.path 0 = ⟨.root, ["w"]⟩ ∧
        u.memory.forest.place 1 = ⟨⟨.root, ["w", "a.js"]⟩, false⟩ := by
      rw [hforest]
      exact ⟨rfl, rfl⟩
    intro k hk folder hparent
    rw [hancestors, List.mem_cons, List.mem_singleton] at hk
    rcases hk with rfl | rfl
    · cases hparents.1.symm.trans hparent
      rw [hplaces.1, hplaces.2]
      exact ⟨"a.js", .file .empty, by rw [hitems]; simp, rfl⟩
    · cases hparents.2.symm.trans hparent
  have hspared : Spared {} here 1 stored after :=
    ⟨spares_invalidated (by decide), spares_changed hd', spares_asked hshown, trivial⟩
  have hfind : (p.find? here "a.js").go w'.disk w'.memory.forest =
      (.ok (some 1), w'.memory.forest) := by
    simp only [w', after, stored, w, here, p]
    cbv
  have hplace : w'.memory.forest.place 1 = stored.memory.forest.place 1 := by
    simp only [w', after, stored, w, here, p]
    cbv
  have hstep : stored = w.step {} here (.asked p "a.js") := rfl
  have hrun : w' = stored.run {} here after := rfl
  clear_value u w' stored w
  subst hrun hstep
  have hlater := (candidates_until_invalidated hhere hreachable hnew hstored hspared).1 "a.js" 1 _
    hfind hplace
  exact ⟨hhere, hreachable, hnew, hstored, hspared, hfind, hplace,
    congrArg (·.1.candidates) hlater⟩

end World

end ModuleHints.Catalog

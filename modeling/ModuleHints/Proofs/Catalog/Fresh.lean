import ModuleHints.Proofs.Catalog.Runs

/-!
# What a catalog keeps, and a fresh catalog

What a catalog keeps was read while the disk held something, and perhaps while some of its folders
refused to be listed. Where it says, for the trees of which `T` holds, what a disk does on which no
more folders refuse, being asked keeps it so: the catalog answers as a fresh one on that disk does,
or fails at a folder that can not be listed.
-/

namespace ModuleHints

variable {s : Settings} {d d₀ : Disk} {T : NodeId → Prop} {here : Path} {p : Project}
  {path : String} {m : Memory}

namespace Walk.SoundIn

variable {f : Forest}

/-- Forgetting listings leaves what the others say. -/
theorem refresh (hf : SoundIn d T f) (folder : NodeId) : SoundIn d T (f.refresh folder) where
  tidy := hf.tidy.refresh folder
  coherent r hr hroot := (hf.coherent r hr (Forest.isRoot_refresh.mp hroot)).refresh folder

/-- Forgetting listings one folder after the other leaves what the others say. -/
theorem foldl_refresh (hf : SoundIn d T f) (folders : List NodeId) :
    SoundIn d T (folders.foldl Forest.refresh f) := by
  induction folders generalizing f with
  | nil => exact hf
  | cons folder rest ih => exact ih (hf.refresh folder)

/-- A new root leaves what the listings say. -/
theorem plant (hf : SoundIn d T f) {home : Path} (hhome : home.Proper) :
    SoundIn d T (f.plant home).2 where
  tidy := hf.tidy.plant hhome
  coherent r hr hroot := by
    have hbefore : f.CoherentBelow d r := by
      rcases Forest.isRoot_of_plant hroot with rfl | hroot
      · intro k n held hreached hn hheld
        obtain ⟨j, hj, hreached'⟩ := hf.tidy.live hn (by simp [hheld])
        have hkeeps := Forest.keeps_plant f home
        cases (hkeeps.reached hreached').eq_root (hkeeps.reached hreached) (hkeeps.isRoot hj) hroot
        exact hf.coherent _ hr hj k n held hreached hn hheld
      · exact hf.coherent r hr hroot
    exact hbefore.plant hf.tidy home hroot

end Walk.SoundIn

/-- What is kept is in order, and for the trees of which `T` holds it says what a disk does. -/
structure Memory.SoundIn (s : Settings) (d : Disk) (T : NodeId → Prop) (m : Memory) : Prop where
  /-- The listings do. -/
  forest : Walk.SoundIn d T m.forest
  /-- The candidates of each remembered file do. -/
  cache : ∀ k found, m.cache.get? k = some found → ∃ root, m.forest.IsRoot root ∧
    m.forest.Under root k ∧
    (T root → Place.eligible s d (m.forest.path root) (m.forest.place k) = .ok found)

namespace Memory.SoundIn

/-- Remembered candidates stay right as long as no node is lost. -/
theorem keeps (h : m.SoundIn s d T) {f : Forest} (hkeeps : m.forest.Keeps f)
    (hf : Walk.SoundIn d T f) : SoundIn s d T { m with forest := f } where
  forest := hf
  cache k found hfound := by
    obtain ⟨root, hroot, hunder, hright⟩ := h.cache k found hfound
    obtain ⟨n, hn⟩ := hunder.exists_node hroot
    obtain ⟨r, hr⟩ := Forest.Under.refl.exists_node hroot
    have hpath : f.path root = m.forest.path root := congrArg Place.path (hkeeps.place_eq hr)
    refine ⟨root, hkeeps.isRoot hroot, hunder.keeps hkeeps, fun hT => ?_⟩
    rw [hpath, hkeeps.place_eq hn]
    exact hright hT

/-- Candidates of a file that are right may be remembered. -/
theorem store (h : m.SoundIn s d T) {root k : NodeId} {q : Place} {found : List Candidate}
    (hk : m.forest.At root k q)
    (hfound : T root → Place.eligible s d (m.forest.path root) q = .ok found) :
    SoundIn s d T { m with cache := m.cache.store k found } where
  forest := h.forest
  cache j others hothers := by
    by_cases hj : j = k
    · subst hj
      rw [Cache.get?_store_self] at hothers
      cases hothers
      exact ⟨root, hk.isRoot, hk.reached.under, hk.place_eq ▸ hfound⟩
    · rw [Cache.get?_store_of_ne _ hj] at hothers
      exact h.cache j others hothers

/-- The candidates remembered of a file are those that the disk gives. -/
theorem remembered (h : m.SoundIn s d T) {root k : NodeId} {q : Place} {found : List Candidate}
    (hk : m.forest.At root k q) (hT : T root) (hfound : m.cache.get? k = some found) :
    Place.eligible s d (m.forest.path root) q = .ok found := by
  obtain ⟨other, hother, hunder, hright⟩ := h.cache k found hfound
  cases hunder.eq_root hk.reached.under hother hk.isRoot
  exact hk.place_eq ▸ hright hT

/-- Forgetting listings leaves what is kept. -/
theorem refresh (h : m.SoundIn s d T) (folder : NodeId) :
    SoundIn s d T { m with forest := m.forest.refresh folder } where
  forest := h.forest.refresh folder
  cache k found hfound := by
    obtain ⟨root, hroot, hunder, hright⟩ := h.cache k found hfound
    refine ⟨root, Forest.isRoot_refresh.mpr hroot, hunder.refresh folder, fun hT => ?_⟩
    have hpath := congrArg Place.path (Forest.place_refresh m.forest folder root)
    change (m.forest.refresh folder).path root = m.forest.path root at hpath
    rw [hpath, Forest.place_refresh]
    exact hright hT

/-- To say that a file is out of date leaves what is kept of the others. -/
theorem invalidate (h : m.SoundIn s d T) (k : NodeId) : (m.invalidate k).SoundIn s d T where
  forest := h.forest.refresh _
  cache j found hfound := by
    rw [Memory.invalidate] at hfound
    by_cases hj : j = k
    · subst hj
      rw [Cache.get?_erase_self] at hfound
      cases hfound
    · rw [Cache.get?_erase_of_ne _ hj] at hfound
      exact (h.refresh _).cache j found hfound

/-- To say that all files are out of date leaves nothing remembered. -/
theorem invalidateAll (h : m.SoundIn s d T) : m.invalidateAll.SoundIn s d T where
  forest := h.forest.foldl_refresh _
  cache k found hfound := by cases hfound

/-- A new root leaves what is kept. -/
theorem plant (h : m.SoundIn s d T) {home : Path} (hhome : home.Proper) :
    SoundIn s d T { m with forest := (m.forest.plant home).2 } :=
  h.keeps (Forest.keeps_plant m.forest home) (h.forest.plant hhome)

/-- Whatever the disk, what is kept is in order. -/
theorem of_false (h : m.SoundIn s d fun _ => False) (d' : Disk) :
    m.SoundIn s d' fun _ => False where
  forest := ⟨h.forest.tidy, fun _ hT => hT.elim⟩
  cache k found hfound := by
    obtain ⟨root, hroot, hunder, -⟩ := h.cache k found hfound
    exact ⟨root, hroot, hunder, False.elim⟩

end Memory.SoundIn

namespace Catalog

/-- What asking for the modules of a file of a tree may do to a memory, and what it gives, where a
disk gives `r`. -/
structure Responds (s : Settings) (d d₀ : Disk) (T : NodeId → Prop) (root : NodeId) (path : String)
    (m m' : Memory) (found : Findings) (r : Except DiskError (List Candidate)) : Prop where
  /-- Nothing is lost. -/
  grows : m.forest.Grows m'.forest
  /-- The memory stays sound. -/
  sound : m'.SoundIn s d₀ T
  /-- It fails at a folder of the tree, as the other disk does that can list the folder no better;
  or the answer is that of the other disk. -/
  outcome : (∃ e k q, found = ⟨[], [.unreadable path e]⟩ ∧ m'.forest.At root k q ∧
      d.list q.path = .error e ∧ (T root → d₀.list q.path = .error e → r = .error e)) ∨
    ∃ modules, found.outcome = (modules, none) ∧ (T root → r = .ok modules)

/-- The catalog answers what a disk gives on which no more folders refuse, or fails. -/
theorem responds_candidates (here : Path) (path : String) (hd : d.WellFormed) (h₀ : d.Eased d₀)
    (hm : m.SoundIn s d₀ T) (hr : m.forest.At p.root p.root ⟨p.home, true⟩) :
    Responds s d d₀ T p.root path m (candidates s d here p path m).2
      (candidates s d here p path m).1 (Place.modulesFor s d₀ here p.home path) := by
  have hfind := follows_find? hd h₀ hm.forest hr here path
  have hproceeds := proceeds_candidates s d here p path m
  generalize candidates s d here p path m = out at hproceeds ⊢
  cases hproceeds with
  | lost hgo =>
    obtain ⟨hgrows, hf, k, q, hk, hlist, hplace⟩ := hfind.of_error hgo
    exact ⟨hgrows, hm.keeps hgrows.keeps hf, .inl ⟨_, k, q, rfl, hk, hlist,
      fun hT hlist₀ => Place.modulesFor_of_error (hplace hT hlist₀)⟩⟩
  | absent hgo =>
    obtain ⟨hgrows, hf, q?, hfile, hplace⟩ := hfind.of_ok hgo
    cases hfile
    exact ⟨hgrows, hm.keeps hgrows.keeps hf,
      .inr ⟨[], rfl, fun hT => Place.modulesFor_of_none (hplace hT)⟩⟩
  | folder hgo hfolder =>
    obtain ⟨hgrows, hf, q?, hfile, hplace⟩ := hfind.of_ok hgo
    cases hfile with
    | some hk =>
      rw [hk.isFolder_eq] at hfolder
      exact ⟨hgrows, hm.keeps hgrows.keeps hf,
        .inr ⟨[], rfl, fun hT => Place.modulesFor_of_isFolder (hplace hT) hfolder⟩⟩
  | @remembered k f found hgo hfolder hget =>
    obtain ⟨hgrows, hf, q?, hfile, hplace⟩ := hfind.of_ok hgo
    have hkept := hm.keeps hgrows.keeps hf
    cases hfile with
    | some hk =>
      rw [hk.isFolder_eq] at hfolder
      refine ⟨hgrows, hkept, .inr ⟨found, rfl, fun hT => ?_⟩⟩
      have hright := hkept.remembered hk hT hget
      rw [(hr.keeps hgrows.keeps).path_eq] at hright
      rw [Place.modulesFor_of_not_isFolder (hplace hT) hfolder, hright]
  | unread hgo hfolder hget hwalk =>
    obtain ⟨hgrows, hf, q?, hfile, hplace⟩ := hfind.of_ok hgo
    have hkept := hm.keeps hgrows.keeps hf
    cases hfile with
    | some hk =>
      obtain ⟨hgrows', hf', j, q, hj, hlist, hplace'⟩ :=
        (follows_eligible hd h₀ hf (hr.keeps hgrows.keeps) hk).of_error hwalk
      rw [hk.isFolder_eq] at hfolder
      refine ⟨hgrows.trans hgrows', hkept.keeps hgrows'.keeps hf',
        .inl ⟨_, j, q, rfl, hj, hlist, fun hT hlist₀ => ?_⟩⟩
      rw [Place.modulesFor_of_not_isFolder (hplace hT) hfolder, hplace' hT hlist₀]
  | @collected k f f' found hgo hfolder hget hwalk =>
    obtain ⟨hgrows, hf, q?, hfile, hplace⟩ := hfind.of_ok hgo
    have hkept := hm.keeps hgrows.keeps hf
    cases hfile with
    | @some _ q hk =>
      have hr' := hr.keeps hgrows.keeps
      obtain ⟨hgrows', hf', found', rfl, hplace'⟩ :=
        (follows_eligible hd h₀ hf hr' hk).of_ok hwalk
      rw [hk.isFolder_eq] at hfolder
      have hright : T p.root → Place.eligible s d₀ (f'.path p.root) q = .ok found := by
        rw [(hr'.keeps hgrows'.keeps).path_eq]
        exact hplace'
      refine ⟨hgrows.trans hgrows',
        (hkept.keeps hgrows'.keeps hf').store (hk.keeps hgrows'.keeps) hright,
        .inr ⟨found, rfl, fun hT => ?_⟩⟩
      rw [Place.modulesFor_of_not_isFolder (hplace hT) hfolder, hplace' hT]

/-- Where no more folders refuse than on the other disk, the answer is that of the disk. -/
theorem Responds.outcome_eq {root : NodeId} {m' : Memory} {found : Findings}
    {r : Except DiskError (List Candidate)} (h : Responds s d d T root path m m' found r)
    (hT : T root) : found.outcome = Place.outcome r := by
  rcases h.outcome with ⟨e, k, q, rfl, -, hlist, hr⟩ | ⟨modules, hfound, hr⟩
  · rw [hr hT hlist]
    exact outcome_unreadable path e
  · rw [hfound, hr hT]
    rfl

/-- What a catalog of which nothing is known yet finds for a file of a new project. -/
def fresh (s : Settings) (d : Disk) (here home : Path) (path : String) : Findings :=
  let (p, forest) := Project.plant here home {}
  (candidates s d here p path { forest }).1

theorem soundIn_empty : Memory.SoundIn s d T {} where
  forest := ⟨Forest.tidy_empty, fun r _ ⟨n, hn, _⟩ => absurd hn (Forest.node?_empty r n)⟩
  cache k found hfound := by cases hfound

/-- A fresh catalog answers what the disk gives. -/
theorem outcome_fresh (here : Path) (path : String) (hd : d.WellFormed) {home : Path}
    (hhome : home.Proper) :
    (fresh s d here home path).outcome =
      Place.outcome (Place.modulesFor s d here home path) := by
  have hplanted : (Project.plant here home {}).1.home = home := hhome.absolute_eq here
  have hm : Memory.SoundIn s d (fun _ => True)
      { ({} : Memory) with forest := (Forest.plant {} (home.absolute here)).2 } :=
    soundIn_empty.plant (by rwa [hhome.absolute_eq])
  obtain ⟨hroot, hplace⟩ := Forest.isRoot_plant {} (home.absolute here)
  have hresponds := responds_candidates (p := (Project.plant here home {}).1) here path hd (.refl d)
    hm (Forest.at_root hroot hplace)
  have houtcome := hresponds.outcome_eq trivial
  rwa [hplanted] at houtcome

/-- What an event makes of the disk holds what a disk holds on which no more folders refuse. -/
def Event.Eases (d : Disk) : Event → Prop
  | .changed d' _ => d'.Eased d
  | _ => True

namespace World

variable {w : World}

/-- A world is sound, and for the trees of which `T` holds what is kept says what a disk does that
holds the same and on which no more folders refuse. -/
structure Told (s : Settings) (d : Disk) (T : NodeId → Prop) (w : World) : Prop where
  /-- The world is sound. -/
  sound : w.Sound
  /-- The disks hold the same. -/
  eased : w.disk.Eased d
  /-- What is kept says what the disk does. -/
  memory : w.memory.SoundIn s d T

/-- What happens keeps it so, as long as the disk holds the same. -/
theorem Told.step (h : w.Told s d T) (hhere : here.Proper) {e : Event} (he : e.Eases d) :
    (w.step s here e).Told s d T := by
  have hsound := h.sound.step (s := s) hhere e
  cases e with
  | planted home =>
    have hhome := (Path.plain_ofString home).proper_absolute hhere
    exact ⟨hsound, h.eased, h.memory.plant hhome⟩
  | asked p path =>
    rw [World.step] at hsound ⊢
    split at hsound
    next hp =>
      rw [if_pos hp]
      have hresponds := responds_candidates here path w.wellFormed h.eased h.memory
        (h.sound.root p hp)
      exact ⟨hsound, h.eased, hresponds.sound⟩
    next hp =>
      rw [if_neg hp]
      exact h
  | invalidated k => exact ⟨hsound, h.eased, h.memory.invalidate k⟩
  | cleared => exact ⟨hsound, h.eased, h.memory.invalidateAll⟩
  | changed d' hd' => exact ⟨hsound, he, h.memory⟩

/-- Whatever happens keeps it so, as long as the disk holds the same. -/
theorem Told.run (h : w.Told s d T) (hhere : here.Proper) {events : List Event}
    (hevents : ∀ e ∈ events, e.Eases d) : (w.run s here events).Told s d T := by
  induction events generalizing w with
  | nil => exact h
  | cons e rest ih =>
    exact ih (h.step hhere (hevents e (List.mem_cons_self ..)))
      fun e he => hevents e (List.mem_cons_of_mem _ he)

/-- Whatever happens, what is kept is in order. -/
theorem Told.run_of_false (h : w.Told s w.disk fun _ => False) (hhere : here.Proper)
    (events : List Event) :
    (w.run s here events).Told s (w.run s here events).disk fun _ => False := by
  induction events generalizing w with
  | nil => exact h
  | cons e rest ih =>
    have hmemory : ∃ d, (w.step s here e).memory.SoundIn s d fun _ => False := by
      cases e with
      | changed d hd => exact ⟨w.disk, h.memory⟩
      | _ => exact ⟨w.disk, (h.step hhere (by trivial)).memory⟩
    obtain ⟨d, hmemory⟩ := hmemory
    exact ih ⟨h.sound.step hhere e, .refl _, hmemory.of_false _⟩

/-- Whatever has happened, what is kept is in order. -/
theorem Reachable.told (h : w.Reachable s here) (hhere : here.Proper) :
    w.Told s w.disk fun _ => False := by
  obtain ⟨d, hd, events, rfl⟩ := h
  exact Told.run_of_false ⟨sound_initial hd, .refl d, soundIn_empty⟩ hhere events

/-- The home folder of a project is at a proper path. -/
theorem Sound.proper_home (h : w.Sound) (hp : p ∈ w.projects) : p.home.Proper := by
  have hat := h.root p hp
  obtain ⟨n, hn⟩ := hat.node
  have hproper := h.tidy.proper hn
  rwa [← Forest.path_eq hn, hat.path_eq] at hproper

/-- What a catalog answers that keeps only what a disk does. -/
theorem Told.responds (h : w.Told s d T) (here : Path) (hp : p ∈ w.projects) (path : String) :
    Responds s w.disk d T p.root path w.memory (candidates s w.disk here p path w.memory).2
      (candidates s w.disk here p path w.memory).1 (Place.modulesFor s d here p.home path) :=
  responds_candidates here path w.wellFormed h.eased h.memory (h.sound.root p hp)

/-- A catalog that keeps only what its own disk does answers like a fresh one. -/
theorem Told.outcome_eq_fresh (h : w.Told s w.disk T) (hp : p ∈ w.projects) (hT : T p.root)
    (path : String) :
    (candidates s w.disk here p path w.memory).1.outcome =
      (fresh s w.disk here p.home path).outcome :=
  ((h.responds here hp path).outcome_eq hT).trans
    (outcome_fresh here path w.wellFormed (h.sound.proper_home hp)).symm

end World

end Catalog

end ModuleHints

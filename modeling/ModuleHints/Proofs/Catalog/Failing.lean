import ModuleHints.Proofs.Catalog.Fresh
import ModuleHints.Proofs.Catalog.Kept

/-!
# Folders that can not be listed

While the disk holds the same, folders may refuse to be listed and may be listed again. A request
that needs a folder that refuses gives nothing and remembers nothing, and what it has listed before
it came to the folder is what the disk holds. So nothing has to be forgotten: as soon as the folders
may be listed, the catalog answers like a fresh one.
-/

namespace ModuleHints

open Walk

/-- The disk on which every folder may be listed. -/
def Disk.allowAll (d : Disk) : Disk := { d with refusing := [] }

/-- What holds the same and has no folder that refuses is this disk. -/
theorem Disk.eq_allowAll {d d' : Disk} (h : d.items = d'.items) (hnone : d.refusing = []) :
    d = d'.allowAll := by
  obtain ⟨items, refusing⟩ := d
  dsimp only at h hnone
  subst h hnone
  rfl

/-- Where the home folder or something that the disk holds can not be listed, the system was asked
and has found why. -/
def Disk.FailsFound (d : Disk) (home : Path) : Prop :=
  ∀ names, (names = home.names ∨ names ∈ d.items.map Prod.fst) →
    ∀ e, d.list ⟨home.anchor, names⟩ = .error e → e.isFound = true

/-- The system finds why wherever no path has a NUL in it. -/
theorem Disk.failsFound_of_nul_not_mem {d : Disk} {home : Path}
    (h : ∀ names ∈ home.names :: d.items.map Prod.fst,
      '\x00' ∉ (Path.mk home.anchor names).toString.toList) : d.FailsFound home := by
  intro names hnames e hlist
  by_contra hfound
  have hnul := (Disk.unnameable_of_list hlist (Bool.eq_false_iff.mpr hfound)).2
  exact h names (List.mem_cons.mpr hnames) hnul

/-- What a tree lists below its root is on the disk. -/
theorem Forest.CoherentBelow.mem_items {d : Disk} {f : Forest} {root k : NodeId}
    (hc : f.CoherentBelow d root) (hf : f.Tidy) (hd : d.WellFormed) (h : f.Reached root k) :
    (f.path k).anchor = (f.path root).anchor ∧
      (k = root ∨ (f.path k).names ∈ d.items.map Prod.fst) := by
  induction h with
  | refl => exact ⟨rfl, .inl rfl⟩
  | @listed p k hp hparent hlists ih =>
    obtain ⟨name, hname⟩ := hf.path_eq_child hparent
    obtain ⟨n, held, hn, hheld, hmem⟩ := hlists
    have hproper : (f.place p).path.Proper := by
      rw [Forest.place_eq hn]
      exact hf.proper hn
    obtain ⟨-, hplaces⟩ := Place.of_children hd hproper (hc p n held hp hn hheld)
    obtain ⟨-, -, -, hitem⟩ := hplaces (f.place k) (List.mem_map_of_mem hmem)
    refine ⟨?_, .inr hitem⟩
    rw [hname]
    exact ih.1

namespace Catalog

variable {s : Settings} {d : Disk} {here : Path} {p : Project} {path : String} {m : Memory}

/-- All the folders that a request needs can be listed, or have a listing. -/
structure CanAnswer (s : Settings) (d : Disk) (here : Path) (p : Project) (path : String)
    (m : Memory) : Prop where
  /-- Those on the way to the file can. -/
  find : CanList d (p.find? here path) m.forest
  /-- Those in which modules are looked for can, where none are remembered. -/
  collect : ∀ k f, (p.find? here path).go d m.forest = (.ok (some k), f) → f.isFolder k = false →
    m.cache.get? k = none → CanList d (eligible s p k) f

/-- A request that needs a folder that can not be listed gives nothing and remembers nothing. -/
theorem candidates_of_not_canAnswer (h : ¬CanAnswer s d here p path m) :
    (candidates s d here p path m).1.candidates = [] ∧
      (candidates s d here p path m).2.cache = m.cache := by
  have hfound : ∀ {out f}, (p.find? here path).go d m.forest = (.ok out, f) →
      CanList d (p.find? here path) m.forest :=
    fun hgo => (plain_find? p here path).canList_iff.mpr ⟨_, congrArg Prod.fst hgo⟩
  have hproceeds := proceeds_candidates s d here p path m
  generalize candidates s d here p path m = out at hproceeds ⊢
  cases hproceeds with
  | lost _ => exact ⟨rfl, rfl⟩
  | absent _ => exact ⟨rfl, rfl⟩
  | folder _ _ => exact ⟨rfl, rfl⟩
  | unread _ _ _ _ => exact ⟨rfl, rfl⟩
  | remembered hgo _ hget =>
    refine absurd ⟨hfound hgo, fun j f hgo' _ hnone => ?_⟩ h
    cases hgo.symm.trans hgo'
    cases hget.symm.trans hnone
  | @collected k f _ _ hgo _ _ hwalk =>
    refine absurd ⟨hfound hgo, fun j f' hgo' _ _ => ?_⟩ h
    cases hgo.symm.trans hgo'
    exact (plain_eligible s p k).canList_iff.mpr ⟨_, congrArg Prod.fst hwalk⟩

/-- A request that needs no such folder does not fail. -/
theorem CanAnswer.ne_unreadable (h : CanAnswer s d here p path m) (e : DiskError) :
    (candidates s d here p path m).1 ≠ ⟨[], [.unreadable path e]⟩ := by
  have hproceeds := proceeds_candidates s d here p path m
  generalize candidates s d here p path m = out at hproceeds ⊢
  cases hproceeds with
  | lost hgo =>
    obtain ⟨a, ha⟩ := h.find.exists_ok
    rw [hgo] at ha
    cases ha
  | unread hgo hfile hget hwalk =>
    obtain ⟨a, ha⟩ := (h.collect _ _ hgo hfile hget).exists_ok
    rw [hwalk] at ha
    cases ha
  | absent _ => exact fun heq => by cases heq
  | folder _ _ => exact fun heq => by cases heq
  | remembered _ _ _ => exact fun heq => by cases heq
  | collected _ _ _ _ => exact fun heq => by cases heq

/-- What an event makes of the disk holds what a disk does. -/
def Event.KeepsContents (d : Disk) : Event → Prop
  | .changed d' _ => d'.items = d.items
  | _ => True

namespace World

variable {w : World}

/-- A project that is there stays there. -/
theorem mem_projects_run (hp : p ∈ w.projects) (events : List Event) :
    p ∈ (w.run s here events).projects := by
  induction events generalizing w with
  | nil => exact hp
  | cons e rest ih =>
    apply ih
    cases e with
    | planted home => exact List.mem_append_left _ hp
    | asked p' path =>
      rw [World.step]
      split <;> exact hp
    | invalidated k => exact hp
    | cleared => exact hp
    | changed d hd => exact hp

/-- While the disk holds the same, what is kept is what it holds. -/
theorem Told.run_of_contents (h : w.Told s d.allowAll fun _ => True) (hhere : here.Proper)
    {events : List Event} (hevents : ∀ e ∈ events, e.KeepsContents d) :
    (w.run s here events).Told s d.allowAll fun _ => True := by
  apply h.run hhere
  intro e he
  have hkeeps := hevents e he
  cases e with
  | changed d' hd' => exact Disk.eased_of_items hkeeps.symm rfl
  | _ => trivial

/-- A request does not raise where the system has found why a folder can not be listed. -/
theorem Told.outcome_of_failsFound (h : w.Told s d.allowAll fun _ => True) (hd : d.WellFormed)
    (hp : p ∈ w.projects) (path : String) (hfound : w.disk.FailsFound p.home) :
    (candidates s w.disk here p path w.memory).1.outcome.2 = none := by
  have hresponds := h.responds here hp path
  rcases hresponds.outcome with ⟨e, k, q, heq, hk, hlist, -⟩ | ⟨modules, heq, -⟩
  · have hforest := hresponds.sound.forest
    have hhome := ((h.sound.root p hp).keeps hresponds.grows.keeps).path_eq
    obtain ⟨hanchor, hplace⟩ := (hforest.coherent p.root trivial hk.isRoot).mem_items hforest.tidy
      (hd.of_items rfl) hk.reached
    have hnames : q.path.names = p.home.names ∨ q.path.names ∈ w.disk.items.map Prod.fst := by
      rw [← h.eased.items, ← hk.path_eq]
      apply hplace.imp_left
      rintro rfl
      rw [hhome]
    have hpath : q.path = ⟨p.home.anchor, q.path.names⟩ := by
      rw [hk.path_eq, hhome] at hanchor
      rw [← hanchor]
    have hisFound := hfound _ hnames e (hpath ▸ hlist)
    rw [heq, outcome_unreadable, Place.outcome, if_pos hisFound]
  · rw [heq]

/-- While the disk holds the same, a request never raises where the system has found why a folder
can not be listed; it gives nothing and remembers nothing where it needs a folder that can not be
listed, and else what a fresh catalog gives on the disk on which every folder may be listed. Once
every folder may be listed the catalog answers like a fresh one, whatever has been asked or said to
be out of date in between. -/
theorem candidates_while_refused (hhere : here.Proper) (hd : d.WellFormed) {events : List Event}
    (hevents : ∀ e ∈ events, e.KeepsContents d) :
    let w := run s here { disk := d, wellFormed := hd } events
    ∀ p ∈ w.projects, ∀ path,
      (w.disk.FailsFound p.home →
        (candidates s w.disk here p path w.memory).1.outcome.2 = none) ∧
      (¬CanAnswer s w.disk here p path w.memory →
        (candidates s w.disk here p path w.memory).1.candidates = [] ∧
          (candidates s w.disk here p path w.memory).2.cache = w.memory.cache) ∧
      (CanAnswer s w.disk here p path w.memory →
        (candidates s w.disk here p path w.memory).1.outcome =
          (fresh s d.allowAll here p.home path).outcome) ∧
      ∀ after, (∀ e ∈ after, e.KeepsContents d) →
        let v := (w.step s here (.asked p path)).run s here after
        v.disk.refusing = [] → (candidates s v.disk here p path v.memory).1.outcome =
          (fresh s v.disk here p.home path).outcome := by
  intro w p hp path
  have htold : w.Told s d.allowAll fun _ => True := by
    apply Told.run_of_contents _ hhere hevents
    exact ⟨sound_initial hd, Disk.eased_of_items rfl rfl, soundIn_empty⟩
  have hd₀ : d.allowAll.WellFormed := hd.of_items rfl
  have hfresh := outcome_fresh (s := s) here path hd₀ (htold.sound.proper_home hp)
  have hresponds := htold.responds here hp path
  refine ⟨htold.outcome_of_failsFound hd hp path, candidates_of_not_canAnswer, fun hcan => ?_, ?_⟩
  · rcases hresponds.outcome with ⟨e, k, q, heq, -⟩ | ⟨modules, heq, hgives⟩
    · exact absurd heq (hcan.ne_unreadable e)
    · rw [heq, hfresh, hgives trivial]
      rfl
  · intro after hafter v hrefusing
    have hlater : v.Told s d.allowAll fun _ => True := by
      apply Told.run_of_contents _ hhere hafter
      exact htold.step hhere (e := .asked p path) trivial
    have hdisk : v.disk = d.allowAll := Disk.eq_allowAll hlater.eased.items.symm hrefusing
    have hp' : p ∈ v.projects := mem_projects_run (mem_projects_run hp [.asked p path]) after
    rw [← hdisk] at hlater
    exact hlater.outcome_eq_fresh hp' trivial path

/-- A folder with two source files, and the folders that refuse to be listed. -/
def twoSources (refusing : List Path) : Disk :=
  ⟨[(["w"], .folder), (["w", "a.js"], .file .empty), (["w", "b.js"], .file .empty)], refusing⟩

theorem wellFormed_twoSources (refusing : List Path) : (twoSources refusing).WellFormed := by
  constructor
  · change [["w"], ["w", "a.js"], ["w", "b.js"]].Nodup
    decide
  · change ∀ names ∈ [["w"], ["w", "a.js"], ["w", "b.js"]], ∀ n ∈ names, isFileName n = true
    decide

/-- The home folder refuses to be listed while a file in it is asked for, and then does not. -/
theorem candidates_while_home_refused :
    let s : Settings := {}
    let here := Path.ofString "/w"
    let p : Project := ⟨here, 0⟩
    let hd := wellFormed_twoSources []
    let w := run s here { disk := _, wellFormed := hd }
      [.planted "/w", .changed _ (wellFormed_twoSources [here])]
    let v := (w.step s here (.asked p "a.js")).run s here [.changed _ hd]
    here.Proper ∧ p ∈ w.projects ∧ w.disk.FailsFound p.home ∧
      ¬CanAnswer s w.disk here p "a.js" w.memory ∧
      (candidates s w.disk here p "a.js" w.memory).1.outcome = ([], none) ∧ v.disk.refusing = [] ∧
      (candidates s v.disk here p "a.js" v.memory).1.outcome =
        (fresh s v.disk here p.home "a.js").outcome := by
  intro s here p hd w v
  have hhere : here.Proper := by decide
  have hfound : w.disk.FailsFound p.home := by
    apply Disk.failsFound_of_nul_not_mem
    change ∀ names ∈ [["w"], ["w"], ["w", "a.js"], ["w", "b.js"]],
      '\x00' ∉ (Path.mk .root names).toString.toList
    decide
  have hproject : p ∈ w.projects := by
    have hprojects : w.projects = [p] := by
      simp only [w, here, p]
      cbv
    rw [hprojects]
    exact List.mem_singleton_self p
  have hcan : ¬CanAnswer s w.disk here p "a.js" w.memory := by
    have hrefused : ((p.find? here "a.js").go w.disk w.memory.forest).1 =
        .error ⟨.denied, "/w"⟩ := by
      simp only [w, here, p]
      cbv
    intro h
    obtain ⟨k, hk⟩ := h.find.exists_ok
    cases hrefused.symm.trans hk
  obtain ⟨hnone, hnothing, -, hlater⟩ := candidates_while_refused (s := s) hhere hd
    (by simp [Event.KeepsContents, twoSources] :
      ∀ e ∈ [Event.planted "/w", .changed _ (wellFormed_twoSources [here])], e.KeepsContents _)
    p hproject "a.js"
  exact ⟨hhere, hproject, hfound, hcan, Prod.ext (hnothing hcan).1 (hnone hfound), rfl,
    hlater [.changed _ hd] (by simp [Event.KeepsContents]) rfl⟩

end World

end Catalog

end ModuleHints

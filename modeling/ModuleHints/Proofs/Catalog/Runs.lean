import ModuleHints.Proofs.Catalog.Remembered
import ModuleHints.Proofs.Project.Planted

/-!
# Runs of a catalog

A catalog is asked about files of several projects while the disk changes under it, and is told now
and then that what it remembers of a file, or of all files, is out of date. Whatever happens, its
trees stay in order and each project keeps its root.
-/

namespace ModuleHints.Catalog

/-- A catalog with the projects that it may be asked about, and the disk that they are on. -/
structure World where
  /-- What the catalog remembers. -/
  memory : Memory := {}
  /-- The projects. -/
  projects : List Project := []
  /-- The disk. -/
  disk : Disk
  /-- Every name on the disk may name a file, and nothing is there twice. -/
  wellFormed : disk.WellFormed

/-- Something that happens to a catalog or to its disk. -/
inductive Event where
  /-- There is a new project. -/
  | planted (home : String)
  /-- The candidates for the file at a path are asked for. -/
  | asked (p : Project) (path : String)
  /-- What is remembered of a file is out of date. -/
  | invalidated (k : NodeId)
  /-- All that is remembered is out of date. -/
  | cleared
  /-- The disk becomes another one. -/
  | changed (d : Disk) (hd : d.WellFormed)

namespace World

variable {s : Settings} {here : Path} {w : World}

/-- What an event makes of a world. Only projects that are there can be asked about. -/
def step (s : Settings) (here : Path) (w : World) : Event → World
  | .planted home =>
    let (p, forest) := Project.plant here (.ofString home) w.memory.forest
    { w with memory := { w.memory with forest }, projects := w.projects ++ [p] }
  | .asked p path =>
    if p ∈ w.projects then { w with memory := (candidates s w.disk here p path w.memory).2 } else w
  | .invalidated k => { w with memory := w.memory.invalidate k }
  | .cleared => { w with memory := w.memory.invalidateAll }
  | .changed d hd => { w with disk := d, wellFormed := hd }

/-- What events make of a world, one after the other. -/
def run (s : Settings) (here : Path) (w : World) (events : List Event) : World :=
  events.foldl (step s here) w

/-- The trees of a world are in order, and its projects have their roots. -/
structure Sound (w : World) : Prop where
  /-- The trees are in order. -/
  tidy : w.memory.forest.Tidy
  /-- The root of each project is one, at the home folder. -/
  root : ∀ p ∈ w.projects, w.memory.forest.At p.root p.root ⟨p.home, true⟩

theorem Sound.memory (h : w.Sound) : w.memory.Sound s w.disk False := ⟨h.tidy, False.elim⟩

theorem sound_initial {d : Disk} (hd : d.WellFormed) : Sound { disk := d, wellFormed := hd } :=
  ⟨Forest.tidy_empty, fun _ hp => absurd hp List.not_mem_nil⟩

/-- What is asked for leaves a world sound. -/
theorem Sound.asked (h : w.Sound) {p : Project} (hp : p ∈ w.projects) (path : String) :
    w.memory.forest.Grows (candidates s w.disk here p path w.memory).2.forest ∧
      (candidates s w.disk here p path w.memory).2.forest.Tidy := by
  have hanswers : Answers s w.disk False w.memory (candidates s w.disk here p path w.memory).2 _ _ :=
    answers_candidates w.wellFormed h.memory (h.root p hp)
  exact ⟨hanswers.grows, hanswers.sound.tidy⟩

/-- Whatever happens leaves a world sound. -/
theorem Sound.step (h : w.Sound) (hhere : here.Proper) (e : Event) : (w.step s here e).Sound := by
  cases e with
  | planted home =>
    have hhome := (Path.plain_ofString home).proper_absolute hhere
    have hkeeps := Forest.keeps_plant w.memory.forest ((Path.ofString home).absolute here)
    obtain ⟨hroot, hplace⟩ := Forest.isRoot_plant w.memory.forest ((Path.ofString home).absolute here)
    refine ⟨h.tidy.plant hhome, fun p hp => ?_⟩
    rcases List.mem_append.mp hp with hp | hp
    · exact (h.root p hp).keeps hkeeps
    · cases List.mem_singleton.mp hp
      exact Forest.at_root hroot hplace
  | asked p path =>
    rw [World.step]
    split
    next hp =>
      obtain ⟨hgrows, htidy⟩ := h.asked hp path
      exact ⟨htidy, fun p hp => (h.root p hp).keeps hgrows.keeps⟩
    next => exact h
  | invalidated k =>
    refine ⟨h.tidy.refresh _, fun p hp => ?_⟩
    obtain ⟨hroot, -, -, hplace⟩ := h.root p hp
    exact Forest.at_root (Forest.isRoot_refresh.mpr hroot) ((Forest.place_refresh ..).trans hplace)
  | cleared =>
    refine ⟨h.tidy.foldl_refresh _, fun p hp => ?_⟩
    obtain ⟨hroot, -, -, hplace⟩ := h.root p hp
    exact Forest.at_root ((Forest.isRoot_foldl_refresh _).mpr hroot)
      ((Forest.place_foldl_refresh _).trans hplace)
  | changed d hd => exact ⟨h.tidy, h.root⟩

/-- Whatever happens, one thing after the other, leaves a world sound. -/
theorem Sound.run (h : w.Sound) (hhere : here.Proper) (events : List Event) :
    (w.run s here events).Sound := by
  induction events generalizing w with
  | nil => exact h
  | cons e rest ih => exact ih (h.step hhere e)

/-- A world that comes from one of which nothing was known. -/
def Reachable (s : Settings) (here : Path) (w : World) : Prop :=
  ∃ (d : Disk) (hd : d.WellFormed) (events : List Event),
    w = run s here { disk := d, wellFormed := hd } events

theorem Reachable.sound (h : w.Reachable s here) (hhere : here.Proper) : w.Sound := by
  obtain ⟨d, hd, events, rfl⟩ := h
  exact (sound_initial hd).run hhere events

end World

end ModuleHints.Catalog

import ModuleHints.Server.State
import ModuleHints.Proofs.Catalog.Remembered
import ModuleHints.Proofs.Project.Planted

/-!
# Answers of a server and what the disk has

The answer to a request can be said without anything that a server keeps but its settings: the
document is what the workspace says, and the modules are those that the disk gives. A server whose
listings and remembered candidates say what the disk does gives that answer, whatever requests it has
answered before, and whatever its workspace said then.
-/

namespace ModuleHints.Server

variable {ε : Type} {d : Disk} {c : Prop} {here : Path} {w : Workspace ε}

namespace Workspace

/-- The modules that the disk has for a document. -/
def modulesOn (w : Workspace ε) (settings : Settings) (d : Disk) (here : Path)
    (path : Option String) : Except DiskError (List Candidate) :=
  match path.filter fun path => !path.isEmpty with
  | none => .ok []
  | some path => Place.modulesFor settings d here ((w.homeOf path).absolute here) path

/-- The completions at an offset of a document as the disk has them. -/
def answerAt (w : Workspace ε) (settings : Settings) (d : Disk) (here : Path)
    (document : TextDocument) (cursor : Nat) : Except (Failure ε) (List Entry) :=
  if document.text.asksForModules cursor then
    match Place.outcome (w.modulesOn settings d here document.path) with
    | (found, none) =>
      .ok (entries document.text document.encoding
        (document.text.moduleSet settings cursor found))
    | (_, some e) => .error (.folder e)
  else .ok (entries document.text document.encoding (document.text.complete settings cursor []))

/-- The answer to a request as the workspace and the disk have it. -/
def answerOn (w : Workspace ε) (settings : Settings) (d : Disk) (here : Path) (r : Request) :
    Except (Failure ε) (List Entry) :=
  match w.document d r.uri with
  | .error e => .error (.document e)
  | .ok document =>
    match offsetAt? document.text document.encoding r.position with
    | none => .ok []
    | some cursor =>
      if deserves document.text cursor r.cause then w.answerAt settings d here document cursor
      else .ok []

/-- The home folder of a document is a proper one once it is made absolute. -/
theorem proper_homeOf (w : Workspace ε) (hhere : here.Proper) (path : String) :
    ((w.homeOf path).absolute here).Proper := by
  rw [homeOf]
  split
  next root _ => exact (Path.plain_ofString root).proper_absolute hhere
  next => exact (Path.plain_ofString path).parent.proper_absolute hhere

end Workspace

namespace State

variable {s : State}

/-- What a server keeps is in order, and where `c` holds it says what the disk does. Every project
has its own root, and nothing else is one. -/
structure Sound (here : Path) (d : Disk) (c : Prop) (s : State) : Prop where
  /-- The memory is in order. -/
  memory : s.memory.Sound s.settings d c
  /-- A project is at its home folder, and so is its root. -/
  project : ∀ e ∈ s.projects, e.2.home = e.1.absolute here ∧
    s.memory.forest.IsRoot e.2.root ∧ s.memory.forest.place e.2.root = ⟨e.2.home, true⟩
  /-- Every root is that of a project. -/
  root : ∀ k, s.memory.forest.IsRoot k → ∃ e ∈ s.projects, e.2.root = k

/-- A server with a new project. -/
def addProject (s : State) (here home : Path) : State :=
  { s with
    projects := s.projects ++ [(home, (Project.plant here home s.memory.forest).1)]
    memory := { s.memory with forest := (Project.plant here home s.memory.forest).2 } }

/-- A new project keeps a server sound. -/
theorem Sound.addProject (hs : s.Sound here d c) {home : Path}
    (hhome : (home.absolute here).Proper) :
    (s.addProject here home).Sound here d c := by
  have hkeeps := Forest.keeps_plant s.memory.forest (home.absolute here)
  obtain ⟨hroot, hplace⟩ := Forest.isRoot_plant s.memory.forest (home.absolute here)
  constructor
  · have hcoherent := fun hc =>
      (hs.memory.current hc).forest.plant hs.memory.tidy (home.absolute here)
    exact hs.memory.keeps hkeeps ⟨hs.memory.tidy.plant hhome, hcoherent⟩
  · intro e he
    rcases List.mem_append.mp he with he | he
    · obtain ⟨heq, hroot', hplace'⟩ := hs.project e he
      obtain ⟨n, hn, -⟩ := id hroot'
      exact ⟨heq, hkeeps.isRoot hroot', (hkeeps.place_eq hn).trans hplace'⟩
    · cases List.mem_singleton.mp he
      exact ⟨rfl, hroot, hplace⟩
  · intro k hk
    rcases Forest.isRoot_of_plant hk with rfl | hk
    · exact ⟨_, List.mem_append_right _ (List.mem_singleton.mpr rfl), rfl⟩
    · obtain ⟨e, he, hek⟩ := hs.root k hk
      exact ⟨e, List.mem_append_left _ he, hek⟩

/-- The project that a document of a path lies in, if it lies in one. -/
def Owns (s : State) (w : Workspace ε) (path : Option String) (project : Option Project) : Prop :=
  match path.filter fun path => !path.isEmpty with
  | none => project = none
  | some path => ∃ e ∈ s.projects, e.1 = w.homeOf path ∧ project = some e.2

/-- What looking for the project of a document may do to a server, and what it gives. -/
structure Settles (here : Path) (d : Disk) (c : Prop) (s : State) (w : Workspace ε)
    (path : Option String) (project : Option Project) (t : State) : Prop where
  /-- The server stays sound. -/
  sound : t.Sound here d c
  /-- The settings stay in force. -/
  settings : t.settings = s.settings
  /-- The project is that of the document. -/
  owns : t.Owns w path project

/-- A document is given its project. -/
theorem Sound.projectOf (hs : s.Sound here d c) (hhere : here.Proper) (w : Workspace ε)
    (path : Option String) :
    Settles here d c s w path (s.projectOf w here path).1 (s.projectOf w here path).2 := by
  rw [State.projectOf]
  cases hpath : path.filter fun path => !path.isEmpty with
  | none => exact ⟨hs, rfl, by rw [Owns, hpath]⟩
  | some path' =>
    cases hlookup : s.projects.lookup (w.homeOf path') with
    | some p =>
      simp only [hlookup]
      obtain ⟨before, after, hprojects, -⟩ := List.lookup_eq_some_iff.mp hlookup
      have hmem : (w.homeOf path', p) ∈ s.projects := by
        rw [hprojects]
        exact List.mem_append_right _ (List.mem_cons_self ..)
      refine ⟨hs, rfl, ?_⟩
      rw [Owns, hpath]
      exact ⟨_, hmem, rfl, rfl⟩
    | none =>
      simp only [hlookup]
      refine ⟨hs.addProject (w.proper_homeOf hhere path'), rfl, ?_⟩
      rw [Owns, hpath]
      exact ⟨_, List.mem_append_right _ (List.mem_singleton.mpr rfl), rfl, rfl⟩

/-- A server whose memory has changed without losing anything is as sound as the memory. -/
theorem Sound.remember (hs : s.Sound here d c) {m : Memory}
    (hgrows : s.memory.forest.Grows m.forest)
    (hm : m.Sound s.settings d c) : Sound here d c { s with memory := m } := by
  refine ⟨hm, ?_, fun k hk => hs.root k (hgrows.root hk)⟩
  intro e he
  obtain ⟨heq, hroot, hplace⟩ := hs.project e he
  obtain ⟨n, hn, -⟩ := id hroot
  exact ⟨heq, hgrows.keeps.isRoot hroot, (hgrows.keeps.place_eq hn).trans hplace⟩

/-- A document without a path lies in no project; any other lies in one at the home folder that the
workspace gives it, whose root is there. -/
theorem Settles.project_cases {t : State} {path : Option String} {project : Option Project}
    (h : Settles here d c s w path project t) :
    ((path.filter fun path => !path.isEmpty) = none ∧ project = none) ∨
      ∃ text p, path = some text ∧ (path.filter fun path => !path.isEmpty) = some text ∧
        project = some p ∧ p.home = (w.homeOf text).absolute here ∧
        t.memory.forest.At p.root p.root ⟨p.home, true⟩ := by
  have howns := h.owns
  rw [Owns] at howns
  cases hpath : path.filter fun path => !path.isEmpty with
  | none =>
    rw [hpath] at howns
    exact .inl ⟨rfl, howns⟩
  | some text =>
    rw [hpath] at howns
    obtain ⟨e, he, hhome, hproject⟩ := howns
    obtain ⟨heq, hroot, hplace⟩ := h.sound.project e he
    exact .inr ⟨text, e.2, (Option.filter_eq_some_iff.mp hpath).1, rfl, hproject, hhome ▸ heq,
      Forest.at_root hroot hplace⟩

/-- What asking for modules may do to a sound server that knows the project of a document. -/
theorem Settles.answers {t : State} {path : Option String} {project : Option Project}
    (h : Settles here d c s w path project t) (hd : d.WellFormed) :
    Catalog.Answers t.settings d c t.memory
      (Catalog.candidatesFor t.settings d here project path t.memory).2
      (Catalog.candidatesFor t.settings d here project path t.memory).1
      (w.modulesOn s.settings d here path) := by
  rw [Workspace.modulesOn]
  rcases h.project_cases with ⟨hpath, rfl⟩ | ⟨text, p, rfl, hpath, rfl, hhome, hroot⟩
  · rw [hpath, Catalog.candidatesFor_none]
    exact ⟨.refl _, h.sound.memory, fun _ => rfl⟩
  · rw [hpath]
    dsimp only
    rw [← hhome, ← h.settings]
    exact Catalog.answers_candidates hd h.sound.memory hroot

/-- What completing may do to a server, and what it gives. -/
structure Completes (here : Path) (d : Disk) (c : Prop) (s : State)
    (out : Except (Failure ε) Reply × State) (answer : Except (Failure ε) (List Entry)) : Prop where
  /-- The settings stay in force. -/
  settings : out.2.settings = s.settings
  /-- The server stays sound. -/
  sound : out.2.Sound here d c
  /-- Where what is kept says what the disk does, the answer is that of the disk. -/
  answer : c → out.1.map Reply.entries = answer

/-- Completing at an offset of a document. -/
theorem Sound.completeAt (hs : s.Sound here d c) (hd : d.WellFormed) (hhere : here.Proper)
    (w : Workspace ε) (document : TextDocument) (cursor : Nat) :
    Completes here d c s (s.completeAt w d here document cursor)
      (w.answerAt s.settings d here document cursor) := by
  have hproject := hs.projectOf hhere w document.path
  rw [State.completeAt]
  cases hout : s.projectOf w here document.path with
  | mk project t =>
    have hsettles : Settles here d c s w document.path project t := by rwa [hout] at hproject
    have hanswers := hsettles.answers hd
    have hset := Catalog.set_complete t.settings d here t.memory document.text cursor project
      document.path
    have hfailure := Catalog.failure?_complete t.settings d here t.memory document.text cursor
      project document.path
    have hmemory := Catalog.memory_complete t.settings d here t.memory document.text cursor project
      document.path
    dsimp only
    rw [Workspace.answerAt]
    by_cases hasks : document.text.asksForModules cursor = true
    · rw [if_pos hasks] at hset hfailure hmemory
      rw [if_pos hasks, hset, hfailure, hmemory]
      refine ⟨hsettles.settings, hsettles.sound.remember hanswers.grows hanswers.sound, ?_⟩
      intro hc
      rw [hanswers.outcome hc, hsettles.settings]
      cases Place.outcome (w.modulesOn s.settings d here document.path) with
      | mk found failure =>
        cases failure <;> rfl
    · rw [if_neg hasks] at hset hfailure hmemory
      rw [if_neg hasks, hset, hfailure, hmemory]
      refine ⟨hsettles.settings, hsettles.sound, ?_⟩
      intro _
      rw [hsettles.settings]
      rfl

/-- Answering a request. -/
theorem Sound.complete (hs : s.Sound here d c) (hd : d.WellFormed) (hhere : here.Proper)
    (w : Workspace ε) (r : Request) :
    Completes here d c s (s.complete w d here r) (w.answerOn s.settings d here r) := by
  rw [State.complete, Workspace.answerOn]
  cases w.document d r.uri with
  | error e => exact ⟨rfl, hs, fun _ => rfl⟩
  | ok document =>
    dsimp only
    cases offsetAt? document.text document.encoding r.position with
    | none => exact ⟨rfl, hs, fun _ => rfl⟩
    | some cursor =>
      by_cases hdeserves : deserves document.text cursor r.cause = true
      · simp only [hdeserves, if_true]
        exact hs.completeAt hd hhere w document cursor
      · simp only [hdeserves]
        exact ⟨rfl, hs, fun _ => rfl⟩

end State

end ModuleHints.Server

import Mathlib
import ModuleHints.Proofs.Server.Answers

/-!
# Runs of a server

A server answers requests while its client works on documents and the disk changes under it, and hears
of changed files now and then. Requests between a change and the word of it may be answered from what
was read before, and what they read is kept. Once the server hears of changed files, nothing that was
read before is left; as long as the disk then stays as it is, the server answers like one that has just
been started.
-/

namespace ModuleHints.Server

variable {ε : Type} {d : Disk} {c : Prop} {here : Path} {settings : Settings}

namespace State

variable {s : State}

/-- A server that has just been started keeps nothing, and so is sound. -/
theorem sound_initial : Sound here d c { settings } := by
  refine ⟨⟨Forest.tidy_empty, fun _ => ⟨Forest.coherent_empty d, ?_⟩⟩, ?_, ?_⟩
  · exact fun k found hfound => by cases hfound
  · exact fun e he => by cases he
  · exact fun k ⟨n, hn, _⟩ => absurd hn (Forest.node?_empty k n)

/-- Less may be asked of a server. -/
theorem Sound.imp {c' : Prop} (hs : s.Sound here d c) (h : c' → c) : s.Sound here d c' :=
  ⟨⟨hs.memory.tidy, fun hc => hs.memory.current (h hc)⟩, hs.project, hs.root⟩

/-- What a server keeps is in order whatever the disk. -/
theorem Sound.changed (hs : s.Sound here d c) (d' : Disk) : s.Sound here d' False :=
  ⟨⟨hs.memory.tidy, False.elim⟩, hs.project, hs.root⟩

/-- No folder keeps a listing once changes have been heard of. -/
theorem Sound.listing_eq_none (hs : s.Sound here d c) {k : NodeId} {n : Node}
    (h : s.invalidate.memory.forest.node? k = some n) : n.listing = none := by
  have htidy := hs.memory.tidy
  have hroots : ∀ {k n}, s.memory.forest.node? k = some n → n.listing ≠ none →
      ∃ r ∈ s.projects.map fun e => e.2.root, s.memory.forest.Reached r k := by
    intro k n hn hlisting
    obtain ⟨r, hr, hreached⟩ := htidy.live hn hlisting
    obtain ⟨e, he, rfl⟩ := hs.root r hr
    exact ⟨_, List.mem_map_of_mem he, hreached⟩
  exact (htidy.foldl_refresh _).listing_eq_none
    (fun hn hlisting => absurd (htidy.listing_eq_none hroots hn) hlisting) h

/-- A server that has heard of changes keeps nothing that the disk could contradict. -/
theorem Sound.invalidate (hs : s.Sound here d c) (d' : Disk) : s.invalidate.Sound here d' True := by
  constructor
  · refine ⟨(hs.memory.tidy.foldl_refresh _).foldl_refresh _, fun _ => ⟨?_, ?_⟩⟩
    · exact Forest.coherent_of_listing_eq_none hs.listing_eq_none
    · exact fun k found hfound => by cases hfound
  · intro e he
    obtain ⟨heq, hroot, hplace⟩ := hs.project e he
    refine ⟨heq, ?_, ?_⟩
    · exact (Forest.isRoot_foldl_refresh _).mpr ((Forest.isRoot_foldl_refresh _).mpr hroot)
    · exact (Forest.place_foldl_refresh _).trans ((Forest.place_foldl_refresh _).trans hplace)
  · intro k hk
    exact hs.root k ((Forest.isRoot_foldl_refresh _).mp ((Forest.isRoot_foldl_refresh _).mp hk))

end State

/-- A workspace without a folder that gives one text and one path for every document. -/
def Workspace.ofText (path text : String) : Workspace Empty :=
  ⟨none, fun _ _ => .ok ⟨some path, .ofString text, .utf16⟩⟩

/-- A running server, its workspace, and the disk that both read. -/
structure World (ε : Type) where
  /-- What the server keeps. -/
  state : State
  /-- What its workspace says. -/
  workspace : Workspace ε
  /-- The disk. -/
  disk : Disk
  /-- Every name on the disk may name a file, and nothing is there twice. -/
  wellFormed : disk.WellFormed
  /-- Whether the disk has stayed as it is since the server started or last heard of changes. -/
  unchanged : Bool

/-- Something that happens to a server, to its workspace or to the disk. -/
inductive Event (ε : Type) where
  /-- The client opens, changes or closes documents: from now on the workspace says something
  else. -/
  | edited (w : Workspace ε)
  /-- Completions are asked for. -/
  | requested (r : Request)
  /-- Files are reported as changed. -/
  | reported (uris : List String)
  /-- The disk becomes another one. -/
  | changed (d : Disk) (hd : d.WellFormed)

namespace World

variable {w : World ε}

/-- A world in which a server has just been started. -/
def initial (settings : Settings) (workspace : Workspace ε) (d : Disk) (hd : d.WellFormed) :
    World ε :=
  ⟨{ settings }, workspace, d, hd, true⟩

/-- What an event makes of a world. -/
def step (here : Path) (w : World ε) : Event ε → World ε
  | .edited workspace => { w with workspace }
  | .requested r => { w with state := (w.state.complete w.workspace w.disk here r).2 }
  | .reported uris =>
    { w with state := w.state.filesChanged uris, unchanged := w.unchanged || !uris.isEmpty }
  | .changed d hd => { w with disk := d, wellFormed := hd, unchanged := false }

/-- What events make of a world, one after the other. -/
def run (here : Path) (w : World ε) (events : List (Event ε)) : World ε :=
  events.foldl (step here) w

/-- What the client of a world's server gets for a request. -/
def answer (here : Path) (w : World ε) (r : Request) : Except (Failure ε) (List Entry) :=
  (w.state.complete w.workspace w.disk here r).1.map Reply.entries

/-- The server of a world is sound, and has the settings with which it was started. -/
structure Sound (here : Path) (settings : Settings) (w : World ε) : Prop where
  /-- While the disk stays as it is, what the server keeps says what the disk does. -/
  state : w.state.Sound here w.disk (w.unchanged = true)
  /-- The settings are in force. -/
  settings : w.state.settings = settings

theorem sound_initial (workspace : Workspace ε) (hd : d.WellFormed) :
    (initial settings workspace d hd).Sound here settings :=
  ⟨State.sound_initial, rfl⟩

/-- What happens keeps a server sound. -/
theorem Sound.step (h : w.Sound here settings) (hhere : here.Proper) (e : Event ε) :
    (w.step here e).Sound here settings := by
  obtain ⟨hstate, hsettings⟩ := h
  cases e with
  | edited workspace => exact ⟨hstate, hsettings⟩
  | requested r =>
    have hcomplete := hstate.complete w.wellFormed hhere w.workspace r
    exact ⟨hcomplete.sound, hcomplete.settings.trans hsettings⟩
  | reported uris =>
    rw [World.step, State.filesChanged]
    cases huris : uris.isEmpty with
    | true =>
      refine ⟨hstate.imp ?_, hsettings⟩
      intro hc
      rwa [Bool.not_true, Bool.or_false] at hc
    | false => exact ⟨(hstate.invalidate w.disk).imp fun _ => trivial, hsettings⟩
  | changed d hd => exact ⟨(hstate.changed d).imp Bool.noConfusion, hsettings⟩

/-- Whatever happens keeps a server sound. -/
theorem Sound.run (h : w.Sound here settings) (hhere : here.Proper) (events : List (Event ε)) :
    (w.run here events).Sound here settings := by
  induction events generalizing w with
  | nil => exact h
  | cons e rest ih => exact ih (h.step hhere e)

/-- A sound server answers what the workspace and the disk have, as long as the disk stays as it
is. -/
theorem Sound.answer_eq (h : w.Sound here settings) (hhere : here.Proper)
    (hunchanged : w.unchanged = true) (r : Request) :
    w.answer here r = w.workspace.answerOn settings w.disk here r :=
  h.settings ▸ (h.state.complete w.wellFormed hhere w.workspace r).answer hunchanged

/-- A running server answers like one that has just been started with the same settings, workspace
and disk, as long as the disk has stayed as it is since the server started or last heard of changes,
whatever the workspace says and said before. -/
theorem answer_run_eq_start (settings : Settings) (workspace : Workspace ε) (hd : d.WellFormed)
    (hhere : here.Proper) (events : List (Event ε))
    (hunchanged : ((initial settings workspace d hd).run here events).unchanged = true)
    (r : Request) :
    let w := (initial settings workspace d hd).run here events
    w.answer here r = (initial settings w.workspace w.disk w.wellFormed).answer here r := by
  intro w
  have hw : w.Sound here settings := (sound_initial workspace hd).run hhere events
  have hfresh : (initial settings w.workspace w.disk w.wellFormed).Sound here settings :=
    sound_initial w.workspace w.wellFormed
  calc
    w.answer here r = w.workspace.answerOn settings w.disk here r := hw.answer_eq hhere hunchanged r
    _ = _ := (hfresh.answer_eq hhere rfl r).symm

/-- A document is opened and completed in, a file is made beside it, and the file is reported: it is
among the modules from then on. -/
theorem answer_run_eq_start_reported :
    let here := Path.ofString "/w"
    let workspace := Workspace.ofText "/w/a.js" "require('"
    let r : Request := ⟨"file:///w/a.js", ⟨0, 9⟩, .invoked⟩
    let hbefore := Disk.wellFormed_empty.write (p := Path.ofString "/w/a.js") (by decide) .empty
    let hafter := hbefore.write (p := Path.ofString "/w/b.js") (by decide) .empty
    let events := [.edited workspace, .requested r, .changed _ hafter,
      .reported ["file:///w/b.js"]]
    let w := (initial {} (.ofText "/w/a.js" "") _ hbefore).run here events
    here.Proper ∧ w.unchanged = true ∧
      w.answer here r = (initial {} w.workspace w.disk w.wellFormed).answer here r ∧
      (w.answer here r).map (fun entries => entries.getLast?.map Entry.label) =
        .ok (some "./b.js") := by
  intro here workspace r hbefore hafter events w
  have hhere : here.Proper := by decide
  have hlast : (w.answer here r).map (fun entries => entries.getLast?.map Entry.label) =
      .ok (some "./b.js") := by
    simp only [w, r, here, events, workspace]
    cbv
  exact ⟨hhere, rfl, answer_run_eq_start {} _ hbefore hhere events rfl r, hlast⟩

end World

end ModuleHints.Server

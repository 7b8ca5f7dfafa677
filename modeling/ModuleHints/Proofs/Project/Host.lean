import Mathlib
import ModuleHints.Proofs.Project.Asked
import ModuleHints.Proofs.Project.Planted
import ModuleHints.Proofs.Project.Retained

/-!
# A tree in the hands of a host

A host holds on to nodes of a tree, asks any of them for what it holds, looks for files, and forgets
listings, while the disk changes under it. Forgetting goes down from a folder through the listings
that are there. So a node that was handed out earlier can be given a listing to which no listing of
its tree leads: such a listing is stranded, and forgetting the listings of the tree does not reach
it. All other listings are gone then, and a folder of which nothing is kept shows the disk as it is
when it is asked.
-/

namespace ModuleHints

namespace Forest

variable {d : Disk} {f f' : Forest} {root folder k j : NodeId} {n : Node} {held : List NodeId}
  {entries : List (String × Bool)}

/-- Only folders have listings. -/
def FoldersList (f : Forest) : Prop :=
  ∀ k n, f.node? k = some n → n.listing ≠ none → n.isFolder = true

/-- A folder has a listing to which no listing of a tree leads. -/
def Stranded (f : Forest) (root k : NodeId) : Prop := f.listing? k ≠ none ∧ ¬f.Reached root k

/-- The second forest comes from the first one by asking other nodes than one for what they hold. -/
inductive AskedOthers (d : Disk) (k : NodeId) (f : Forest) : Forest → Prop where
  | refl : AskedOthers d k f f
  | children {f' : Forest} {j : NodeId} : AskedOthers d k f f' → j ≠ k →
    AskedOthers d k f (f'.children d j).2

/-- Asked now, a node shows what the disk has at its place. -/
def Shows (f : Forest) (d : Disk) (k : NodeId) : Prop :=
  (f.children d k).1.map (List.map (f.children d k).2.place) = (f.place k).children d

/-- Of a new root nothing is listed. -/
theorem FoldersList.plant (hf : f.FoldersList) (home : Path) : (f.plant home).2.FoldersList := by
  intro k n hn hlisting
  rcases node_cases_of_plant hn with ⟨-, rfl⟩ | hn
  · rfl
  · exact hf k n hn hlisting

/-- What has a listing after others were forgotten had it before. -/
theorem FoldersList.refresh (hf : f.FoldersList) (folder : NodeId) :
    (f.refresh folder).FoldersList := by
  intro k n hn hlisting
  obtain ⟨m, hm, -, -, hfolder, hkept, -⟩ := exists_node_of_refresh hn
  obtain ⟨hsame, -⟩ := hkept.resolve_left hlisting
  exact hfolder.trans (hf k m hm (hsame ▸ hlisting))

/-- Only a folder is given a listing. -/
theorem Given.foldersList (h : Given d f f' k n entries held) (hf : f.FoldersList) :
    f'.FoldersList := by
  obtain ⟨g, hlisted, rfl⟩ := h.listed
  intro j m hm hlisting
  rcases hlisted.node_cases hm with ⟨rfl, rfl⟩ | hm | ⟨-, e, -, rfl⟩
  · exact hlisted.isFolder
  · exact hf j m hm hlisting
  · exact absurd rfl hlisting

/-- Where a listing is kept, it is given, whatever the disk. -/
theorem FoldersList.children_eq (hf : f.FoldersList) (h : f.listing? k = some held) (d : Disk) :
    f.children d k = (.ok held, f) := by
  obtain ⟨n, hn, hlisting⟩ := Option.bind_eq_some_iff.mp h
  rw [Forest.children, hn]
  simp only [hf k n hn (by simp [hlisting]), hlisting]
  rfl

namespace Found

/-- Asking a node leaves nodes where they were found. -/
theorem children (hf : f.Found) (d : Disk) (k : NodeId) : (f.children d k).2.Found := by
  rcases hf.parkedBelow.children_cases d k with hsame | ⟨n, entries, held, hgiven⟩
  · rwa [hsame]
  · obtain ⟨g, hlisted, heq⟩ := hgiven.listed
    exact heq ▸ hlisted.found hf

/-- Asking one node makes no listing of another. -/
theorem listing?_children (hf : f.Found) (hne : j ≠ k) (h : f.listing? k = none) :
    (f.children d j).2.listing? k = none := by
  rcases hf.parkedBelow.children_cases d j with hsame | ⟨n, entries, held, hgiven⟩
  · rwa [hsame]
  · obtain ⟨g, hlisted, heq⟩ := hgiven.listed
    rw [heq, listing?]
    cases hm : (g.keepListing j held).node? k with
    | none => rfl
    | some m =>
      rw [Option.bind_some]
      rcases hlisted.node_cases hm with ⟨rfl, -⟩ | hm | ⟨-, e, -, rfl⟩
      · exact absurd rfl hne
      · exact (listing?_eq hm).symm.trans h
      · rfl

/-- A node of which nothing is kept shows the disk. -/
theorem shows (hf : f.Found) (d : Disk) (h : f.listing? k = none) : f.Shows d k := by
  have hyields := hf.parkedBelow.yields d k
  rw [Shows]
  generalize f.children d k = out at hyields ⊢
  obtain ⟨out, f'⟩ := out
  dsimp only at hyields ⊢
  cases hyields with
  | file hfile =>
    rw [Place.children, place, if_neg (Bool.eq_false_iff.mp hfile)]
    rfl
  | @kept n held hn _ hlisting =>
    rw [listing?_eq hn, hlisting] at h
    cases h
  | @refused n e hn hfolder _ hlist =>
    rw [place_eq hn, Place.children, if_pos hfolder, hlist]
    rfl
  | @given n entries held _ hgiven =>
    obtain ⟨g, hlisted, rfl⟩ := hgiven.listed
    rw [place_eq hlisted.node, Place.children, if_pos hlisted.isFolder, hgiven.list_eq]
    exact congrArg Except.ok hlisted.map_place

end Found

/-- As long as a node is not asked, no listing of it is made. -/
theorem AskedOthers.listing?_eq_none (h : AskedOthers d k f f') (hf : f.Found)
    (hnone : f.listing? k = none) : f'.Found ∧ f'.listing? k = none := by
  induction h with
  | refl => exact ⟨hf, hnone⟩
  | children _ hne ih => exact ⟨ih.1.children d _, ih.1.listing?_children hne ih.2⟩

/-- Where all is one tree in order, no listing is stranded. -/
theorem Tidy.not_stranded (hf : f.Tidy) (hroot : ∀ r, f.IsRoot r → r = root) (k : NodeId) :
    ¬f.Stranded root k := by
  rintro ⟨hlisting, hnot⟩
  obtain ⟨held, hheld⟩ := Option.ne_none_iff_exists'.mp hlisting
  obtain ⟨n, hn, hheld⟩ := Option.bind_eq_some_iff.mp hheld
  obtain ⟨r, hr, hreached⟩ := hf.live hn (by simp [hheld])
  exact hnot (hroot r hr ▸ hreached)

end Forest

namespace Host

/-- A project with its tree, and the disk that it is on. -/
structure World where
  /-- The project. -/
  project : Project
  /-- Its tree. -/
  forest : Forest
  /-- The disk. -/
  disk : Disk
  /-- Every name on the disk may name a file, and nothing is there twice. -/
  wellFormed : disk.WellFormed

/-- What a host may ask a tree. -/
inductive Question where
  /-- What a node holds. -/
  | children (k : NodeId)
  /-- The first node that it holds. -/
  | first (k : NodeId)
  /-- The sibling after a node. -/
  | next (k : NodeId)
  /-- The node with a name that a node holds. -/
  | child (k : NodeId) (name : String)
  /-- The node at a path. -/
  | find (path : String)

/-- The walk that answers a question, without what it gives. -/
def Question.walk (p : Project) (here : Path) : Question → Walk Unit
  | .children k => do
    let _ ← Walk.children k
    return ()
  | .first k => do
    let _ ← Walk.first? k
    return ()
  | .next k => do
    let _ ← Walk.nextSibling k
    return ()
  | .child k name => do
    let _ ← Walk.child? k name
    return ()
  | .find path => do
    let _ ← p.find? here path
    return ()

/-- Something that happens to a tree or to its disk. -/
inductive Event where
  /-- The host asks the tree something. -/
  | asked (q : Question)
  /-- The host forgets the listings of a folder and of the folders below it. -/
  | refreshed (k : NodeId)
  /-- The disk becomes another one. -/
  | changed (d : Disk) (hd : d.WellFormed)

namespace World

variable {here : Path} {w : World} {k : NodeId}

/-- A new project. -/
def begun (here : Path) (home : String) (d : Disk) (hd : d.WellFormed) : World :=
  let (project, forest) := Project.plant here (.ofString home) {}
  { project, forest, disk := d, wellFormed := hd }

/-- What an event makes of a world. -/
def step (here : Path) (w : World) : Event → World
  | .asked q => { w with forest := ((q.walk w.project here).go w.disk w.forest).2 }
  | .refreshed k => { w with forest := w.forest.refresh k }
  | .changed d hd => { w with disk := d, wellFormed := hd }

/-- What events make of a world, one after the other. -/
def run (here : Path) (w : World) (events : List Event) : World := events.foldl (step here) w

/-- An event asks only nodes of which something holds in the forest in which they are asked. -/
def AsksOnly (here : Path) (P : Forest → NodeId → Prop) (w : World) : Event → Prop
  | .asked q => Walk.AsksOnly w.disk P (q.walk w.project here) w.forest
  | .refreshed _ => True
  | .changed _ _ => True

/-- One after the other, events ask only such nodes. -/
def AskOnly (here : Path) (P : Forest → NodeId → Prop) : World → List Event → Prop
  | _, [] => True
  | w, e :: rest => w.AsksOnly here P e ∧ (w.step here e).AskOnly here P rest

/-- A node is asked by none of the events. -/
def Unread (here : Path) (k : NodeId) (w : World) (events : List Event) : Prop :=
  w.AskOnly here (fun _ j => j ≠ k) events

/-- The events ask a node only where listings of the tree lead to it. -/
def Orderly (here : Path) (w : World) (events : List Event) : Prop :=
  w.AskOnly here (fun f j => f.Reached w.project.root j) events

/-- What asking and forgetting keep, events keep. -/
theorem AskOnly.keeps {P : Forest → NodeId → Prop} {I : Forest → Prop} {events : List Event}
    (h : w.AskOnly here P events)
    (hasked : ∀ {d : Disk}, d.WellFormed → ∀ k f, P f k → I f → I (f.children d k).2)
    (hrefreshed : ∀ k f, I f → I (f.refresh k)) (hw : I w.forest) :
    I (w.run here events).forest := by
  induction events generalizing w with
  | nil => exact hw
  | cons e rest ih =>
    obtain ⟨hfirst, hrest⟩ := h
    apply ih hrest
    cases e with
    | asked q => exact hfirst.keeps (hasked w.wellFormed) hw
    | refreshed k => exact hrefreshed k w.forest hw
    | changed d hd => exact hw

/-- A question is answered by asking nodes. -/
theorem plain_walk (p : Project) (q : Question) : (q.walk p here).Plain := by
  cases q with
  | children k => exact (Walk.plain_children k).bind fun _ => Walk.plain_pure ()
  | first k =>
    have hfirst : (Walk.first? k).Plain := (Walk.plain_children k).bind fun _ => Walk.plain_pure _
    exact hfirst.bind fun _ => Walk.plain_pure ()
  | next k =>
    have hnext : (Walk.nextSibling k).Plain := by
      apply (Walk.plain_known _).bind
      intro parent
      cases parent with
      | none => exact Walk.plain_pure _
      | some p => exact (Walk.plain_children p).bind fun _ => Walk.plain_pure _
    exact hnext.bind fun _ => Walk.plain_pure ()
  | child k name => exact (Walk.plain_child? k name).bind fun _ => Walk.plain_pure ()
  | find path => exact (Walk.plain_find? p here path).bind fun _ => Walk.plain_pure ()

/-- Any events ask nodes. -/
theorem askOnly_true (here : Path) (w : World) (events : List Event) :
    w.AskOnly here (fun _ _ => True) events := by
  induction events generalizing w with
  | nil => trivial
  | cons e rest ih =>
    refine ⟨?_, ih _⟩
    cases e with
    | asked q => exact plain_walk w.project q w.disk w.forest
    | refreshed k => trivial
    | changed d hd => trivial

/-- The order in which a tree is, whatever the host does to it. -/
structure Ordered (f : Forest) : Prop where
  /-- Nodes were found where they are. -/
  found : f.Found
  /-- Only folders have listings. -/
  folders : f.FoldersList

/-- A new tree is in order. -/
theorem ordered_begun (here : Path) (home : String) (d : Disk) (hd : d.WellFormed) :
    Ordered (begun here home d hd).forest where
  found := Forest.tidy_empty.found.plant _
  folders := Forest.FoldersList.plant (fun k n hn => absurd hn (Forest.node?_empty k n)) _

/-- A tree stays in order, whatever happens. -/
theorem Ordered.run (h : Ordered w.forest) (events : List Event) :
    Ordered (w.run here events).forest := by
  apply (askOnly_true here w events).keeps
  · intro d _ k f _ hf
    refine ⟨hf.found.children d k, ?_⟩
    rcases hf.found.parkedBelow.children_cases d k with hsame | ⟨n, entries, held, hgiven⟩
    · rw [hsame]
      exact hf.folders
    · exact hgiven.foldersList hf.folders
  · exact fun k f hf => ⟨hf.found.refresh k, hf.folders.refresh k⟩
  · exact h

/-- Where events do not ask a node of which nothing is kept, nothing is kept of it afterwards. -/
theorem Unread.listing?_eq_none {events : List Event} (h : w.Unread here k events)
    (hw : Ordered w.forest) (hnone : w.forest.listing? k = none) :
    (w.run here events).forest.listing? k = none := by
  have hkept : (w.run here events).forest.Found ∧ (w.run here events).forest.listing? k = none := by
    apply AskOnly.keeps (I := fun f => f.Found ∧ f.listing? k = none) h
    · exact fun _ j f hne hf => ⟨hf.1.children _ j, hf.1.listing?_children hne hf.2⟩
    · exact fun j f hf => ⟨hf.1.refresh j, hf.1.listing?_refresh_eq_none (.inr hf.2)⟩
    · exact ⟨hw.found, hnone⟩
  exact hkept.2

/-- Where nodes are asked only as listings lead to them, no listing is ever stranded. -/
theorem Orderly.not_stranded (hhere : here.Proper) {home : String} {d : Disk} {hd : d.WellFormed}
    {events : List Event} (h : (begun here home d hd).Orderly here events) (k : NodeId) :
    ¬((begun here home d hd).run here events).forest.Stranded
      (begun here home d hd).project.root k := by
  set root := (begun here home d hd).project.root
  have hkept : ((begun here home d hd).run here events).forest.Tidy ∧
      ∀ r, ((begun here home d hd).run here events).forest.IsRoot r ↔ r = root := by
    apply AskOnly.keeps (I := fun f => f.Tidy ∧ ∀ r, f.IsRoot r ↔ r = root) h
    · intro d hd k f hreached ⟨htidy, hroot⟩
      have hasks := htidy.children hd ⟨root, (hroot root).mpr rfl, hreached⟩
      refine ⟨hasks.tidy, fun r => ⟨fun hr => (hroot r).mp (hasks.grows.root hr), ?_⟩⟩
      exact fun hr => hasks.grows.keeps.isRoot ((hroot r).mpr hr)
    · intro k f ⟨htidy, hroot⟩
      exact ⟨htidy.refresh k, fun r => Forest.isRoot_refresh.trans (hroot r)⟩
    · have hhome := (Path.plain_ofString home).proper_absolute hhere
      refine ⟨Forest.tidy_empty.plant hhome, fun r => ?_⟩
      constructor
      · intro hr
        rcases Forest.isRoot_of_plant hr with hr | ⟨n, hn, -⟩
        · exact hr
        · exact absurd hn (Forest.node?_empty _ _)
      · rintro rfl
        exact (Forest.isRoot_plant _ _).1
  exact hkept.1.not_stranded (fun r hr => (hkept.2 r).mp hr) k

/-- Whatever has happened to a tree, once the listings below its root are forgotten, a node shows
the disk as it is when it is first asked, unless it had a listing to which none led: that listing is
kept, whatever the disk, and there is none where nodes were asked only as listings led to them. -/
theorem refreshed_shows (hhere : here.Proper) (home : String) (d : Disk) (hd : d.WellFormed)
    (events : List Event) :
    let w₀ := begun here home d hd
    let root := w₀.project.root
    let w := w₀.run here events
    let w' := w.step here (.refreshed root)
    (∀ k, ¬w.forest.Stranded root k → ∀ after, w'.Unread here k after → ∀ f,
      (w'.run here after).forest.AskedOthers (w'.run here after).disk k f →
        f.Shows (w'.run here after).disk k) ∧
    (∀ k, w.forest.Stranded root k → ∃ held, w.forest.listing? k = some held ∧
      ∀ d', w'.forest.children d' k = (.ok held, w'.forest)) ∧
    (w₀.Orderly here events → ∀ k, ¬w.forest.Stranded root k) := by
  intro w₀ root w w'
  have hw : Ordered w.forest := (ordered_begun here home d hd).run events
  have hw' : Ordered w'.forest := ⟨hw.found.refresh root, hw.folders.refresh root⟩
  refine ⟨fun k hstranded after hunread f hothers => ?_, fun k ⟨hlisting, hnot⟩ => ?_,
    fun h => h.not_stranded hhere⟩
  · have hnone : w'.forest.listing? k = none := by
      apply hw.found.listing?_refresh_eq_none
      by_cases h : w.forest.Reached root k
      · exact .inl h
      · exact .inr (Classical.byContradiction fun hlisting => hstranded ⟨hlisting, h⟩)
    obtain ⟨hfound, hlater⟩ := hothers.listing?_eq_none (hw'.run after).found
      (hunread.listing?_eq_none hw' hnone)
    exact hfound.shows _ hlater
  · obtain ⟨held, hheld⟩ := Option.ne_none_iff_exists'.mp hlisting
    have hkept := (hw.found.listing?_refresh root k).2 hnot
    exact ⟨held, hheld, hw'.folders.children_eq (hkept.trans hheld)⟩

/-- What is left of asking a node is its listing. -/
theorem forest_step_children (here : Path) (w : World) (k : NodeId) :
    (w.step here (.asked (.children k))).forest = (w.forest.children w.disk k).2 := by
  change ((Walk.children k >>= fun _ => pure ()).go w.disk w.forest).2 = _
  rw [Walk.go_bind, Walk.go_children]
  rcases w.forest.children w.disk k with ⟨out, f⟩
  cases out <;> rfl

theorem forest_step_changed (here : Path) (w : World) {d : Disk} (hd : d.WellFormed) :
    (w.step here (.changed d hd)).forest = w.forest := rfl

theorem disk_step_asked (here : Path) (w : World) (q : Question) :
    (w.step here (.asked q)).disk = w.disk := rfl

/-- A folder is listed, its tree is refreshed, and another file takes the place of the one in the
folder: the folder shows it. -/
theorem refreshed_shows_new_file :
    let here := Path.ofString "/w"
    let hd := Disk.wellFormed_empty.write (p := ⟨.root, ["w", "m", "a.js"]⟩) (by decide) .empty
    let hd' := Disk.wellFormed_empty.write (p := ⟨.root, ["w", "m", "b.js"]⟩) (by decide) .empty
    let w₀ := begun here "/w" _ hd
    let events := [.asked (.children 0), .asked (.children 1)]
    let after := [.changed _ hd', .asked (.children 0)]
    let w := (w₀.run here events).step here (.refreshed 0)
    let v := w.run here after
    here.Proper ∧ w₀.Orderly here events ∧ w.Unread here 1 after ∧ v.forest.Shows v.disk 1 ∧
      (v.forest.place 1).children v.disk = .ok [⟨⟨.root, ["w", "m", "b.js"]⟩, false⟩] := by
  intro here hd hd' w₀ events after w v
  have hhere : here.Proper := by decide
  have hfirst : (w₀.step here (.asked (.children 0))).forest =
      ⟨#[⟨⟨.root, ["w"]⟩, none, true, some [1], []⟩,
        ⟨⟨.root, ["w", "m"]⟩, some 0, true, none, []⟩]⟩ := by
    rw [forest_step_children]
    simp only [w₀, here]
    cbv
  have horderly : w₀.Orderly here events := by
    have hreached : (w₀.step here (.asked (.children 0))).forest.Reached 0 1 := by
      rw [hfirst]
      exact .listed .refl rfl ⟨_, [1], rfl, rfl, List.mem_singleton_self 1⟩
    exact ⟨.bind (.children .refl) fun _ _ _ => .look fun _ _ => ⟨_, rfl⟩,
      .bind (.children hreached) fun _ _ _ => .look fun _ _ => ⟨_, rfl⟩, trivial⟩
  have hunread : w.Unread here 1 after :=
    ⟨trivial, .bind (.children (by decide)) fun _ _ _ => .look fun _ _ => ⟨_, rfl⟩, trivial⟩
  have hdisk :
      (v.forest.place 1).children v.disk = .ok [⟨⟨.root, ["w", "m", "b.js"]⟩, false⟩] := by
    simp only [v, w, w₀, here, events, after]
    cbv
  have hrun : v = w.run here after := rfl
  clear_value v
  subst hrun
  obtain ⟨hshows, -, hnever⟩ := refreshed_shows hhere "/w" _ hd events
  exact ⟨hhere, horderly, hunread, hshows 1 (hnever horderly 1) after hunread _ .refl, hdisk⟩

/-- A folder that is listed after the root has forgotten it keeps that listing when the root is
refreshed, and shows it when it is found again, although the disk has become another one. -/
theorem stranded_listing_outlives_refresh :
    let here := Path.ofString "/w"
    let hd := Disk.wellFormed_empty.write (p := ⟨.root, ["w", "m", "a.js"]⟩) (by decide) .empty
    let hd' := Disk.wellFormed_empty.write (p := ⟨.root, ["w", "m", "b.js"]⟩) (by decide) .empty
    let w := (begun here "/w" _ hd).run here
      [.asked (.children 0), .refreshed 0, .asked (.children 1), .changed _ hd']
    let w' := w.step here (.refreshed 0)
    let v := w'.step here (.asked (.children 0))
    w.forest.Stranded 0 1 ∧ w'.Unread here 1 [.asked (.children 0)] ∧ v.forest.Reached 0 1 ∧
      (v.forest.children v.disk 1).1.map (List.map (v.forest.children v.disk 1).2.place) =
        .ok [⟨⟨.root, ["w", "m", "a.js"]⟩, false⟩] ∧
      (v.forest.place 1).children v.disk = .ok [⟨⟨.root, ["w", "m", "b.js"]⟩, false⟩] ∧
      ¬v.forest.Shows v.disk 1 := by
  intro here hd hd' w w' v
  have hunread : w'.Unread here 1 [.asked (.children 0)] :=
    ⟨.bind (.children (by decide)) fun _ _ _ => .look fun _ _ => ⟨_, rfl⟩, trivial⟩
  let u := (begun here "/w" _ hd).run here [.asked (.children 0), .refreshed 0]
  have hforgotten : u.forest = ⟨#[⟨⟨.root, ["w"]⟩, none, true, none, [1]⟩,
      ⟨⟨.root, ["w", "m"]⟩, some 0, true, none, []⟩]⟩ := by
    simp only [u, here]
    cbv
  have hlisted : w.forest = ⟨#[⟨⟨.root, ["w"]⟩, none, true, none, [1]⟩,
      ⟨⟨.root, ["w", "m"]⟩, some 0, true, some [2], []⟩,
      ⟨⟨.root, ["w", "m", "a.js"]⟩, some 1, false, none, []⟩]⟩ := by
    have hsteps : w = (u.step here (.asked (.children 1))).step here (.changed _ hd') := rfl
    have hdisk : u.disk = ({} : Disk).write ⟨.root, ["w", "m", "a.js"]⟩ .empty := rfl
    rw [hsteps, forest_step_changed, forest_step_children, hforgotten, hdisk]
    cbv
  have hdisk : w'.disk = ({} : Disk).write ⟨.root, ["w", "m", "b.js"]⟩ .empty := rfl
  have hdisk' : v.disk = ({} : Disk).write ⟨.root, ["w", "m", "b.js"]⟩ .empty :=
    (disk_step_asked here w' (.children 0)).trans hdisk
  have hkept : w'.forest = w.forest := by
    apply ((ordered_begun here "/w" _ hd).run _).found.refresh_eq
    change w.forest.listing? 0 = none
    rw [hlisted]
    rfl
  have hforest : v.forest = ⟨#[⟨⟨.root, ["w"]⟩, none, true, some [1], []⟩,
      ⟨⟨.root, ["w", "m"]⟩, some 0, true, some [2], []⟩,
      ⟨⟨.root, ["w", "m", "a.js"]⟩, some 1, false, none, []⟩]⟩ := by
    rw [forest_step_children, hkept, hlisted, hdisk]
    cbv
  have hshown : (v.forest.children v.disk 1).1.map
      (List.map (v.forest.children v.disk 1).2.place) =
        .ok [⟨⟨.root, ["w", "m", "a.js"]⟩, false⟩] := by
    rw [hforest]
    rfl
  have hnow : (v.forest.place 1).children v.disk =
      .ok [⟨⟨.root, ["w", "m", "b.js"]⟩, false⟩] := by
    rw [hforest, hdisk']
    cbv
  refine ⟨?_, hunread, ?_, hshown, hnow, ?_⟩
  · rw [hlisted]
    refine ⟨Option.some_ne_none [2], fun h => ?_⟩
    cases h.eq_of_listing? rfl
  · rw [hforest]
    exact .listed .refl rfl ⟨_, [1], rfl, rfl, List.mem_singleton_self 1⟩
  · rw [Forest.Shows, hshown, hnow]
    intro h
    injection h with h
    exact absurd h (by decide)

end World

end Host

end ModuleHints

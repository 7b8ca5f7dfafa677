import Mathlib.Data.List.Forall2
import Mathlib.Data.Option.Basic
import ModuleHints.Project.Walk
import ModuleHints.Proofs.Project.Children

/-!
# Walks and what the disk says

A walk over nodes goes with the walk over their places that asks a disk at every step. Whatever the
walk over nodes does, the forest stays in order and loses nothing, and the nodes it meets are
reached from the root at which it began. The walk over places may ask a disk on which fewer folders refuse:
where the listings of the tree say what that disk does, it gives what the walk over nodes gives,
unless that fails at a folder that can not be listed. On the disk itself the two have one outcome.
-/

namespace ModuleHints

namespace Walk

variable {α β γ δ : Type} {d d₀ : Disk} {c : Prop} {T : NodeId → Prop} {f f' : Forest}
  {root : NodeId}

section Go

@[simp] theorem go_get : (get : Walk Forest).go d f = (.ok f, f) := rfl

@[simp] theorem go_known (ask : Forest → α) : (known ask).go d f = (.ok (ask f), f) := rfl

@[simp] theorem go_depthBound : depthBound.go d f = (.ok (depth d f), f) := rfl

@[simp] theorem go_children (k : NodeId) : (children k).go d f = f.children d k := rfl

/-- A walk goes on from where the first part of it stops. -/
theorem go_bind (w : Walk α) (next : α → Walk β) :
    (w >>= next).go d f =
      match w.go d f with
      | (.ok a, f') => (next a).go d f'
      | (.error e, f') => (.error e, f') := by
  have hrun : (w >>= next).go d f =
      ExceptT.bindCont (fun a => next a d) (w.go d f).1 (w.go d f).2 := rfl
  rw [hrun]
  rcases w.go d f with ⟨out, f'⟩
  cases out <;> rfl

end Go

/-- A forest is in order, and where `c` holds its listings say what the disk does. -/
structure Sound (d : Disk) (c : Prop) (f : Forest) : Prop where
  /-- The forest is in order. -/
  tidy : f.Tidy
  /-- Its listings say what the disk does. -/
  coherent : c → f.Coherent d

/-- A forest is in order, and in the trees of which `T` holds its listings say what a disk does. -/
structure SoundIn (d : Disk) (T : NodeId → Prop) (f : Forest) : Prop where
  /-- The forest is in order. -/
  tidy : f.Tidy
  /-- The listings of these trees say what the disk does. -/
  coherent : ∀ r, T r → f.IsRoot r → f.CoherentBelow d r

/-- A forest is sound where all its trees are. -/
theorem soundIn_iff : SoundIn d (fun _ => c) f ↔ Sound d c f := by
  constructor
  · intro hf
    refine ⟨hf.tidy, fun hc k n held hn hheld => ?_⟩
    obtain ⟨r, hr, hreached⟩ := hf.tidy.live hn (by simp [hheld])
    exact hf.coherent r hc hr k n held hreached hn hheld
  · intro hf
    exact ⟨hf.tidy, fun r hc _ k n held _ => hf.coherent hc k n held⟩

/-- A walk over nodes goes with a walk over places: it keeps the forest sound and loses nothing,
what it gives is related to something, and where `c` holds that is what the walk over places
gives. -/
structure Agrees (d : Disk) (c : Prop) (R : Forest → α → β → Prop) (f : Forest) (w : Walk α)
    (r : Except DiskError β) : Prop where
  /-- Nothing is lost. -/
  grows : f.Grows (w.go d f).2
  /-- The forest stays sound. -/
  sound : Sound d c (w.go d f).2
  /-- What the walk gives. -/
  ok : ∀ a, (w.go d f).1 = .ok a → ∃ b, R (w.go d f).2 a b ∧ (c → r = .ok b)
  /-- Why it fails. -/
  error : ∀ e, (w.go d f).1 = .error e → c → r = .error e

/-- A walk that goes with another fails as that one does, or gives something that is related to what
it gives. -/
theorem Agrees.run_cases {R : Forest → α → β → Prop} {w : Walk α} {r : Except DiskError β}
    (h : Agrees d c R f w r) :
    ∃ f', f.Grows f' ∧ Sound d c f' ∧ ((∃ e, w.go d f = (.error e, f') ∧ (c → r = .error e)) ∨
      ∃ a b, w.go d f = (.ok a, f') ∧ R f' a b ∧ (c → r = .ok b)) := by
  refine ⟨(w.go d f).2, h.grows, h.sound, ?_⟩
  cases hout : (w.go d f).1 with
  | error e => exact .inl ⟨e, Prod.ext hout rfl, h.error e hout⟩
  | ok a =>
    obtain ⟨b, hR, hr⟩ := h.ok a hout
    exact .inr ⟨a, b, Prod.ext hout rfl, hR, hr⟩

/-- A walk that goes with another gives something where that one does. -/
theorem Agrees.exists_ok {R : Forest → α → β → Prop} {w : Walk α} {b : β}
    (h : Agrees d True R f w (.ok b)) : ∃ a, (w.go d f).1 = .ok a := by
  cases hout : (w.go d f).1 with
  | ok a => exact ⟨a, rfl⟩
  | error e => cases h.error e hout trivial

/-- A walk over the nodes of a tree goes with a walk over places of another disk: it keeps the trees
sound and loses nothing, it fails only at a folder of the tree that can not be listed, and else what
it gives is related to something that, where `T` holds of the tree, is what the walk over places
gives. -/
structure Follows (d d₀ : Disk) (T : NodeId → Prop) (root : NodeId) (R : Forest → α → β → Prop)
    (f : Forest) (w : Walk α) (r : Except DiskError β) : Prop where
  /-- Nothing is lost. -/
  grows : f.Grows (w.go d f).2
  /-- The trees stay sound. -/
  sound : SoundIn d₀ T (w.go d f).2
  /-- What the walk gives. -/
  ok : ∀ a, (w.go d f).1 = .ok a → ∃ b, R (w.go d f).2 a b ∧ (T root → r = .ok b)
  /-- Where it fails; the walk over places does, too, if it can list the folder no better. -/
  error : ∀ e, (w.go d f).1 = .error e → ∃ k q, (w.go d f).2.At root k q ∧
    d.list q.path = .error e ∧ (T root → d₀.list q.path = .error e → r = .error e)

/-- On the disk itself the two walks have one outcome. -/
theorem Follows.agrees {R : Forest → α → β → Prop} {w : Walk α} {r : Except DiskError β}
    (h : Follows d d (fun _ => c) root R f w r) : Agrees d c R f w r where
  grows := h.grows
  sound := soundIn_iff.mp h.sound
  ok := h.ok
  error e he hc := by
    obtain ⟨k, q, -, hlist, hr⟩ := h.error e he
    exact hr hc hlist

section Rules

variable {R : Forest → α → β → Prop} {S : Forest → γ → δ → Prop}

/-- A walk that gives something related to what the other one gives. -/
theorem follows_of_ok {w : Walk α} {r : Except DiskError β} {a : α} {b : β}
    (hgo : w.go d f = (.ok a, f')) (hgrows : f.Grows f') (hf' : SoundIn d₀ T f') (hR : R f' a b)
    (hr : T root → r = .ok b) : Follows d d₀ T root R f w r := by
  constructor
  · rwa [hgo]
  · rwa [hgo]
  · intro a' ha'
    rw [hgo] at ha' ⊢
    cases ha'
    exact ⟨b, hR, hr⟩
  · intro e he
    rw [hgo] at he
    cases he

/-- A walk that fails at a folder of the tree. -/
theorem follows_of_error {w : Walk α} {r : Except DiskError β} {e : DiskError} {k : NodeId}
    {q : Place} (hgo : w.go d f = (.error e, f')) (hgrows : f.Grows f') (hf' : SoundIn d₀ T f')
    (hk : f'.At root k q) (hlist : d.list q.path = .error e)
    (hr : T root → d₀.list q.path = .error e → r = .error e) :
    Follows d d₀ T root R f w r := by
  constructor
  · rwa [hgo]
  · rwa [hgo]
  · intro a ha
    rw [hgo] at ha
    cases ha
  · intro e' he'
    rw [hgo] at he' ⊢
    cases he'
    exact ⟨k, q, hk, hlist, hr⟩

/-- Only what a walk does counts. -/
theorem Follows.congr {w w' : Walk α} {r : Except DiskError β} (h : Follows d d₀ T root R f w r)
    (hgo : w'.go d f = w.go d f) : Follows d d₀ T root R f w' r := by
  constructor
  · exact hgo ▸ h.grows
  · exact hgo ▸ h.sound
  · exact hgo ▸ h.ok
  · exact hgo ▸ h.error

theorem Follows.pure {a : α} {b : β} (hf : SoundIn d₀ T f) (h : R f a b) :
    Follows d d₀ T root R f (pure a) (.ok b) :=
  follows_of_ok rfl (.refl f) hf h fun _ => rfl

/-- A walk that follows another and fails does so at a folder of the tree. -/
theorem Follows.of_error {w : Walk α} {r : Except DiskError β} {e : DiskError}
    (h : Follows d d₀ T root R f w r) (hgo : w.go d f = (.error e, f')) :
    f.Grows f' ∧ SoundIn d₀ T f' ∧ ∃ k q, f'.At root k q ∧ d.list q.path = .error e ∧
      (T root → d₀.list q.path = .error e → r = .error e) := by
  obtain ⟨hgrows, hsound, -, herror⟩ := h
  rw [hgo] at hgrows hsound herror
  exact ⟨hgrows, hsound, herror e rfl⟩

/-- What a walk gives that follows another is related to what the other gives. -/
theorem Follows.of_ok {w : Walk α} {r : Except DiskError β} {a : α}
    (h : Follows d d₀ T root R f w r) (hgo : w.go d f = (.ok a, f')) :
    f.Grows f' ∧ SoundIn d₀ T f' ∧ ∃ b, R f' a b ∧ (T root → r = .ok b) := by
  obtain ⟨hgrows, hsound, hok, -⟩ := h
  rw [hgo] at hgrows hsound hok
  exact ⟨hgrows, hsound, hok a rfl⟩

/-- Walks go together one after the other. -/
theorem Follows.bind {w : Walk α} {r : Except DiskError β} {next : α → Walk γ}
    {next' : β → Except DiskError δ} (h : Follows d d₀ T root R f w r)
    (hnext : ∀ f' a b, f.Grows f' → SoundIn d₀ T f' → R f' a b →
      Follows d d₀ T root S f' (next a) (next' b)) :
    Follows d d₀ T root S f (w >>= next) (r >>= next') := by
  rcases hw : w.go d f with ⟨out, f'⟩
  cases out with
  | error e =>
    obtain ⟨hgrows, hsound, k, q, hk, hlist, hr⟩ := h.of_error hw
    have hgo : (w >>= next).go d f = (.error e, f') := by rw [go_bind, hw]
    refine follows_of_error hgo hgrows hsound hk hlist fun hT hlist₀ => ?_
    rw [hr hT hlist₀]
    rfl
  | ok a =>
    obtain ⟨hgrows, hsound, b, hR, hr⟩ := h.of_ok hw
    have hgo : (w >>= next).go d f = (next a).go d f' := by rw [go_bind, hw]
    have hbegun : T root → r >>= next' = next' b := fun hT => by rw [hr hT]; rfl
    have hrest := hnext f' a b hgrows hsound hR
    rcases hgo' : (next a).go d f' with ⟨out, f''⟩
    cases out with
    | error e =>
      obtain ⟨hgrows', hsound', k, q, hk, hlist, hr'⟩ := hrest.of_error hgo'
      exact follows_of_error (hgo.trans hgo') (hgrows.trans hgrows') hsound' hk hlist
        fun hT hlist₀ => (hbegun hT).trans (hr' hT hlist₀)
    | ok c =>
      obtain ⟨hgrows', hsound', c', hS, hr'⟩ := hrest.of_ok hgo'
      exact follows_of_ok (hgo.trans hgo') (hgrows.trans hgrows') hsound' hS
        fun hT => (hbegun hT).trans (hr' hT)

theorem Follows.get {next : Forest → Walk α} {r : Except DiskError β}
    (h : Follows d d₀ T root R f (next f) r) : Follows d d₀ T root R f (get >>= next) r :=
  h.congr (by rw [go_bind, go_get])

/-- A question about the forest is no step of a walk. -/
theorem Follows.known {ask : Forest → γ} {next : γ → Walk α} {r : Except DiskError β}
    (h : Follows d d₀ T root R f (next (ask f)) r) :
    Follows d d₀ T root R f (Walk.known ask >>= next) r :=
  h.congr (by rw [go_bind, go_known])

/-- The bound on a descent is no step of a walk. -/
theorem Follows.depthBound {next : Nat → Walk α} {r : Except DiskError β}
    (h : Follows d d₀ T root R f (next (depth d f)) r) :
    Follows d d₀ T root R f (Walk.depthBound >>= next) r :=
  h.congr (by rw [go_bind, go_depthBound])

end Rules

/-- Nodes at places, one for one. -/
def AllAt (root : NodeId) (f : Forest) (ks : List NodeId) (ps : List Place) : Prop :=
  List.Forall₂ (f.At root) ks ps

/-- A node at a place, or neither. -/
def SomeAt (root : NodeId) (f : Forest) (k : Option NodeId) (p : Option Place) : Prop :=
  Option.Rel (f.At root) k p

/-- Nodes stay at their places. -/
theorem AllAt.keeps {ks : List NodeId} {ps : List Place} (h : AllAt root f ks ps)
    (hf : f.Keeps f') :
    AllAt root f' ks ps :=
  List.Forall₂.imp (fun _ _ hk => hk.keeps hf) h

theorem AllAt.append {ks ls : List NodeId} {ps qs : List Place} (h : AllAt root f ks ps)
    (h' : AllAt root f ls qs) : AllAt root f (ks ++ ls) (ps ++ qs) :=
  List.rel_append h h'

/-- The first node that satisfies something is at the first place that does. -/
theorem AllAt.find? {ks : List NodeId} {ps : List Place} (h : AllAt root f ks ps)
    {a : NodeId → Bool} {b : Place → Bool} (hab : ∀ k p, f.At root k p → a k = b p) :
    SomeAt root f (ks.find? a) (ps.find? b) := by
  induction h with
  | nil => exact .none
  | @cons k p ks ps hk _ ih =>
    rw [List.find?_cons, List.find?_cons, hab k p hk]
    cases b p with
    | true => exact .some hk
    | false => exact ih

/-- What is said of nodes at places is said of the places. -/
theorem AllAt.map_eq {ks : List NodeId} {ps : List Place} (h : AllAt root f ks ps) {a : NodeId → γ}
    {b : Place → γ} (hab : ∀ k p, f.At root k p → a k = b p) : ks.map a = ps.map b := by
  induction h with
  | nil => rfl
  | cons hk _ ih => rw [List.map_cons, List.map_cons, hab _ _ hk, ih]

/-- The nodes that satisfy something are at the places that do. -/
theorem AllAt.filter {ks : List NodeId} {ps : List Place} (h : AllAt root f ks ps)
    {a : NodeId → Bool} {b : Place → Bool} (hab : ∀ k p, f.At root k p → a k = b p) :
    AllAt root f (ks.filter a) (ps.filter b) := by
  induction h with
  | nil => exact .nil
  | @cons k p ks ps hk _ ih =>
    rw [List.filter_cons, List.filter_cons, hab k p hk]
    cases b p with
    | true => exact .cons hk ih
    | false => exact ih

section Steps

variable {k : NodeId} {p : Place}

/-- What a folder holds. -/
theorem follows_children (hd : d.WellFormed) (h₀ : d.Eased d₀) (hf : SoundIn d₀ T f)
    (hk : f.At root k p) :
    Follows d d₀ T root (AllAt root) f (children k) (p.children d₀) := by
  have hasks := hf.tidy.children hd hk.live
  have hyields := hf.tidy.found.parkedBelow.yields d k
  have hgo : (children k).go d f = f.children d k := go_children k
  generalize f.children d k = out at hasks hyields hgo
  obtain ⟨out, f'⟩ := out
  have hanswer : ∀ held, out = .ok held → SoundIn d₀ T f' →
      (T root → p.children d₀ = .ok (held.map f'.place)) →
      Follows d d₀ T root (AllAt root) f (children k) (p.children d₀) := by
    rintro held rfl hf' hplaces
    refine follows_of_ok hgo hasks.grows hf' ?_ hplaces
    apply List.forall₂_map_right_iff.mpr
    apply List.forall₂_same.mpr
    intro j hj
    obtain ⟨hparent, hlists⟩ := hasks.lists held rfl j hj
    exact (hk.keeps hasks.grows.keeps).listed hparent hlists
  cases hyields with
  | file hfile =>
    refine hanswer [] rfl hf fun _ => ?_
    rw [hk.isFolder_eq] at hfile
    rw [Place.children, if_neg (Bool.eq_false_iff.mp hfile)]
    rfl
  | @kept n held hn _ hlisting =>
    refine hanswer held rfl hf fun hT => ?_
    have hplaces := hf.coherent root hT hk.isRoot k n held hk.reached hn hlisting
    rwa [hk.place_eq] at hplaces
  | @refused n e hn hfolder _ hlist =>
    rw [← Forest.path_eq hn, hk.path_eq] at hlist
    rw [← Forest.isFolder_eq hn, hk.isFolder_eq] at hfolder
    refine follows_of_error hgo (.refl _) hf hk hlist fun _ hlist₀ => ?_
    rw [Place.children, if_pos hfolder, hlist₀]
    rfl
  | @given n entries held _ hgiven =>
    obtain ⟨g, hlisted, rfl⟩ := hgiven.listed
    have hentries : (f.place k).children d₀ =
        .ok (entries.map fun e => ⟨n.path.child e.1, e.2⟩) := by
      rw [Forest.place_eq hlisted.node, Place.children, if_pos hlisted.isFolder,
        h₀.list_eq hgiven.list_eq]
      rfl
    refine hanswer held rfl ⟨hasks.tidy, fun r hT hr => ?_⟩ fun _ => ?_
    · have hr' := hlisted.grows.root hr
      exact hlisted.coherentBelow hf.tidy hr' (hf.coherent r hT hr') hentries
    · rw [← hk.place_eq, hentries, hlisted.map_place]

/-- The first thing in a folder with a name. -/
theorem follows_child? (hd : d.WellFormed) (h₀ : d.Eased d₀) (hf : SoundIn d₀ T f)
    (hk : f.At root k p) (name : String) :
    Follows d d₀ T root (SomeAt root) f (child? k name) (p.child? d₀ name) := by
  apply (follows_children hd h₀ hf hk).bind
  intro f' held ps _ hf' hheld
  refine Follows.congr (.pure hf' (hheld.find? ?_)) (go_known _)
  intro j q hj
  rw [hj.name_eq]

/-- What names lead to. -/
theorem follows_descend (hd : d.WellFormed) (h₀ : d.Eased d₀) (hf : SoundIn d₀ T f)
    (hk : f.At root k p) (names : List String) :
    Follows d d₀ T root (SomeAt root) f (descend k names) (p.descend d₀ names) := by
  induction names generalizing f k p with
  | nil => exact .pure hf (.some hk)
  | cons name rest ih =>
    apply (follows_child? hd h₀ hf hk name).bind
    intro f' found place _ hf' hfound
    cases hfound with
    | none => exact .pure hf' .none
    | some hj => exact ih hf' hj

/-- What each of a list of nodes stands for. -/
theorem follows_collect {pick : NodeId → Walk (List NodeId)}
    {pick' : Place → Except DiskError (List Place)} {ks : List NodeId} {ps : List Place}
    (hf : SoundIn d₀ T f) (h : AllAt root f ks ps)
    (hpick : ∀ f' k p, SoundIn d₀ T f' → f'.At root k p →
      Follows d d₀ T root (AllAt root) f' (pick k) (pick' p)) :
    Follows d d₀ T root (AllAt root) f (collect pick ks) (Place.collect pick' ps) := by
  induction ks generalizing f ps with
  | nil =>
    cases h
    exact .pure hf .nil
  | cons k rest ih =>
    cases h with
    | cons hk hrest =>
      apply (hpick f k _ hf hk).bind
      intro f' first firstPlaces hgrows hf' hfirst
      apply (ih hf' (AllAt.keeps hrest hgrows.keeps)).bind
      intro f'' others otherPlaces hgrows' hf'' hothers
      exact .pure hf'' ((hfirst.keeps hgrows'.keeps).append hothers)

end Steps

end Walk

end ModuleHints

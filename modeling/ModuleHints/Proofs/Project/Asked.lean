import ModuleHints.Project.Basic
import ModuleHints.Proofs.Project.Walk

/-!
# What asking for listings does

A walk changes a forest in one way only: it asks for what folders hold. A folder that has a listing
keeps it, and one that has none may be given what the disk lists. In the new listing stand the
parked nodes whose entries are still there, so these are found where they were.

Which nodes a walk asks, and in which forests, is said by `AsksOnly`: what each of these questions
keeps, the walk keeps, and the walk fails where one of them does.
-/

namespace ModuleHints

namespace Forest

variable {d : Disk} {f f' f'' : Forest} {folder k j : NodeId} {n : Node} {held parked : List NodeId}
  {entries : List (String × Bool)} {e : String × Bool}

/-- Asking for what a folder holds changes nothing, or gives the folder a listing. -/
theorem ParkedBelow.children_cases (hf : f.ParkedBelow) (d : Disk) (k : NodeId) :
    (f.children d k).2 = f ∨
      ∃ n entries held, Given d f (f.children d k).2 k n entries held := by
  have hyields := hf.yields d k
  generalize f.children d k = out at hyields ⊢
  obtain ⟨out, f'⟩ := out
  cases hyields with
  | file _ => exact .inl rfl
  | kept _ _ _ => exact .inl rfl
  | refused _ _ _ _ => exact .inl rfl
  | given hgiven => exact .inr ⟨_, _, _, hgiven⟩

/-- A folder that is given a listing keeps the parked nodes where they were found. -/
theorem Given.parkedBelow (h : Given d f f' k n entries held) (hf : f.ParkedBelow) :
    f'.ParkedBelow := by
  obtain ⟨g, hlisted, rfl⟩ := h.listed
  intro i m hm j hj
  rcases hlisted.node_cases hm with ⟨rfl, rfl⟩ | hm | ⟨-, e, -, rfl⟩
  · cases hj
  · obtain ⟨u, name, hu, hparent, hpath⟩ := hf i m hm j hj
    obtain ⟨u', hu', hpath', hparent', -⟩ := hlisted.grows.keeps _ _ hu
    exact ⟨u', name, hu', hparent'.trans hparent, hpath'.trans hpath⟩
  · cases hj

/-- The second forest comes from the first one by asking for what folders hold. -/
inductive Asked (d : Disk) (f : Forest) : Forest → Prop where
  | refl : Asked d f f
  | children {f' : Forest} (k : NodeId) : Asked d f f' → Asked d f (f'.children d k).2

namespace Asked

theorem trans (h : Asked d f f') (h' : Asked d f' f'') : Asked d f f'' := by
  induction h' with
  | refl => exact h
  | children k _ ih => exact ih.children k

/-- Asking loses nothing. -/
theorem keeps (h : Asked d f f') (hf : f.ParkedBelow) : f.Keeps f' ∧ f'.ParkedBelow := by
  induction h with
  | refl => exact ⟨.refl f, hf⟩
  | @children f' k _ ih =>
    obtain ⟨hkeeps, hbelow⟩ := ih
    rcases hbelow.children_cases d k with hsame | ⟨n, entries, held, hgiven⟩
    · rw [hsame]
      exact ⟨hkeeps, hbelow⟩
    · obtain ⟨g, hlisted, heq⟩ := hgiven.listed
      exact ⟨hkeeps.trans (heq ▸ hlisted.grows.keeps), hgiven.parkedBelow hbelow⟩

end Asked

/-- What has become of a folder: it is what it was, or has been given what the disk lists, with the
parked nodes that fit. -/
inductive Became (d : Disk) (f f' : Forest) (folder : NodeId) (n : Node) : Node → Prop where
  | same : Became d f f' folder n n
  | given {entries : List (String × Bool)} {held : List NodeId} : n.listing = none →
    d.list n.path = .ok entries →
    (∀ j ∈ held, f'.parent? j = some folder) →
    held.map f'.place = entries.map (fun e => ⟨n.path.child e.1, e.2⟩) →
    (∀ e ∈ entries, ∀ j, n.parked.find? (f.isEntry e) = some j → j ∈ held) →
    Became d f f' folder n { n with listing := some held, parked := [] }

/-- What has become of a folder stays when another one is asked. -/
theorem Became.keeps {n' : Node} (h : Became d f f' folder n n') (hkeeps : f'.Keeps f'') :
    Became d f f'' folder n n' := by
  cases h with
  | same => exact .same
  | given hlisting hlist hparent hplace htakes =>
    refine .given hlisting hlist (fun j hj => hkeeps.parent? (hparent j hj)) ?_ htakes
    rw [← hplace]
    apply List.map_congr_left
    intro j hj
    obtain ⟨m, hm, -⟩ := exists_node_of_parent? (hparent j hj)
    exact hkeeps.place_eq hm

/-- A folder that was asked for, or not, is what it was or has been given a listing. -/
theorem Asked.became (h : Asked d f f') (hf : f.ParkedBelow) (hn : f.node? folder = some n) :
    ∃ n', f'.node? folder = some n' ∧ Became d f f' folder n n' := by
  induction h with
  | refl => exact ⟨n, hn, .same⟩
  | @children f' k hasked ih =>
    obtain ⟨n', hn', hbecame⟩ := ih
    obtain ⟨hkeeps, hbelow⟩ := hasked.keeps hf
    rcases hbelow.children_cases d k with hsame | ⟨m, entries, held, hgiven⟩
    · rw [hsame]
      exact ⟨n', hn', hbecame⟩
    · obtain ⟨g, hlisted, heq⟩ := hgiven.listed
      rw [heq]
      by_cases hk : k = folder
      · subst hk
        cases Option.some.inj (hlisted.node.symm.trans hn')
        refine ⟨_, hlisted.node?_self, ?_⟩
        cases hbecame with
        | given => cases hlisted.listing
        | same =>
          refine .given hlisted.listing hgiven.list_eq (fun j => hlisted.parent?) hlisted.map_place ?_
          intro e he j hfind
          apply hgiven.takes_back e he j
          rwa [hkeeps.find?_isEntry]
          intro i hi
          obtain ⟨m, _, hm, -⟩ := hf k n hn i hi
          exact ⟨m, hm⟩
      · refine ⟨n', ?_, hbecame.keeps hlisted.grows.keeps⟩
        rw [node?_keepListing, hlisted.adopted.old folder n' hn', Option.map_some, if_neg hk]

end Forest

namespace Walk

variable {α β : Type} {w : Walk α} {d : Disk} {f f' : Forest} {k : NodeId} {e : DiskError}

/-- A walk that from a forest on looks at the forest as it is, and asks what nodes hold, but only
nodes of which `P` holds in the forest in which it asks. -/
inductive AsksOnly (d : Disk) (P : Forest → NodeId → Prop) :
    {α : Type} → Walk α → Forest → Prop where
  /-- It looks at the forest. -/
  | look {α : Type} {w : Walk α} {f : Forest} : (∀ d f, ∃ a, w.go d f = (.ok a, f)) →
    AsksOnly d P w f
  /-- It asks what a node holds. -/
  | children {k : NodeId} {f : Forest} : P f k → AsksOnly d P (children k) f
  /-- It goes on with what it was given. -/
  | bind {α β : Type} {w : Walk α} {next : α → Walk β} {f : Forest} : AsksOnly d P w f →
    (∀ a f', w.go d f = (.ok a, f') → AsksOnly d P (next a) f') → AsksOnly d P (w >>= next) f

/-- What asking keeps, a walk keeps. -/
theorem AsksOnly.keeps {P : Forest → NodeId → Prop} {I : Forest → Prop} (h : AsksOnly d P w f)
    (hstep : ∀ k f', P f' k → I f' → I (f'.children d k).2) (hf : I f) : I (w.go d f).2 := by
  induction h with
  | look hlook =>
    obtain ⟨a, ha⟩ := hlook d _
    rwa [ha]
  | children hP => exact hstep _ _ hP hf
  | @bind _ _ w next f _ _ ih ihnext =>
    have hfirst := ih hf
    rw [go_bind]
    rcases hgo : w.go d f with ⟨out, f'⟩
    rw [hgo] at hfirst
    cases out with
    | error e => exact hfirst
    | ok a => exact ihnext a f' hgo hfirst

/-- A walk that looks at forests and asks what nodes hold, and does nothing else. -/
def Plain (w : Walk α) : Prop := ∀ d f, AsksOnly d (fun _ _ => True) w f

theorem Plain.bind {next : α → Walk β} (h : w.Plain) (hnext : ∀ a, (next a).Plain) :
    (w >>= next).Plain :=
  fun d f => .bind (h d f) fun a f' _ => hnext a d f'

/-- All the folders that a walk asks for can be listed, or have a listing. -/
def CanList (d : Disk) (w : Walk α) (f : Forest) : Prop :=
  AsksOnly d (fun f k => ∃ held, (f.children d k).1 = .ok held) w f

/-- A walk that asks only for folders that can be listed gives something. -/
theorem CanList.exists_ok (h : CanList d w f) : ∃ a, (w.go d f).1 = .ok a := by
  induction h with
  | look hlook =>
    obtain ⟨a, ha⟩ := hlook d _
    exact ⟨a, congrArg Prod.fst ha⟩
  | children hheld => exact hheld
  | @bind _ _ w next f _ _ ih ihnext =>
    obtain ⟨a, ha⟩ := ih
    rw [go_bind]
    rcases hgo : w.go d f with ⟨out, f'⟩
    rw [hgo] at ha
    cases ha
    exact ihnext a f' hgo

/-- A walk that asks and gives something asks only for folders that can be listed. -/
theorem AsksOnly.canList {P : Forest → NodeId → Prop} (h : AsksOnly d P w f)
    (hok : ∃ a, (w.go d f).1 = .ok a) : CanList d w f := by
  induction h with
  | look hlook => exact .look hlook
  | children _ => exact .children hok
  | @bind _ _ w next f _ _ ih ihnext =>
    rw [go_bind] at hok
    rcases hgo : w.go d f with ⟨out, f'⟩
    rw [hgo] at hok
    cases out with
    | error e =>
      obtain ⟨a, ha⟩ := hok
      cases ha
    | ok a =>
      refine .bind (ih ⟨a, congrArg Prod.fst hgo⟩) fun a' f'' hgo' => ?_
      cases hgo.symm.trans hgo'
      exact ihnext a f' hgo hok

/-- A plain walk gives something exactly where it asks only for folders that can be listed. -/
theorem Plain.canList_iff (h : w.Plain) : CanList d w f ↔ ∃ a, (w.go d f).1 = .ok a :=
  ⟨CanList.exists_ok, (h d f).canList⟩

/-- A walk does nothing to a forest but ask for what folders hold. -/
def Asks (w : Walk α) : Prop := ∀ (d : Disk) (f : Forest), f.Asked d (w.go d f).2

theorem Plain.asks (h : w.Plain) : w.Asks :=
  fun d f => (h d f).keeps (fun k _ _ hasked => hasked.children k) .refl

/-- What a walk leaves behind comes from asking. -/
theorem Asks.asked {out : Except DiskError α} (h : w.Asks) (hgo : w.go d f = (out, f')) :
    f.Asked d f' := by
  have hasked := h d f
  rwa [hgo] at hasked

theorem plain_pure (a : α) : Plain (pure a) := fun _ _ => .look fun _ _ => ⟨a, rfl⟩

theorem plain_get : Plain get := fun _ _ => .look fun _ f => ⟨f, rfl⟩

theorem plain_known (ask : Forest → α) : (known ask).Plain :=
  fun _ _ => .look fun _ f => ⟨ask f, rfl⟩

theorem plain_depthBound : depthBound.Plain := fun _ _ => .look fun d f => ⟨depth d f, rfl⟩

theorem plain_children (k : NodeId) : (children k).Plain := fun _ _ => .children trivial

theorem plain_child? (folder : NodeId) (name : String) : (child? folder name).Plain :=
  (plain_children folder).bind fun _ => plain_known _

theorem plain_descend (k : NodeId) (names : List String) : (descend k names).Plain := by
  induction names generalizing k with
  | nil => exact plain_pure _
  | cons name rest ih =>
    apply (plain_child? k name).bind
    intro found
    cases found with
    | none => exact plain_pure _
    | some j => exact ih j

theorem plain_collect {pick : NodeId → Walk (List NodeId)} (h : ∀ k, (pick k).Plain)
    (ks : List NodeId) : (collect pick ks).Plain := by
  induction ks with
  | nil => exact plain_pure _
  | cons k rest ih => exact (h k).bind fun _ => ih.bind fun _ => plain_pure _

/-- Looking for a file asks for the folders on the way. -/
theorem plain_find? (p : Project) (here : Path) (path : String) : (p.find? here path).Plain := by
  rw [Project.find?]
  split
  · exact plain_pure _
  · exact plain_descend p.root _

end Walk

end ModuleHints

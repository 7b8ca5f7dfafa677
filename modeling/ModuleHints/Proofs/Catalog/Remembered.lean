import ModuleHints.Catalog.Complete
import ModuleHints.Proofs.Catalog.Eligible

/-!
# Remembered candidates and what the disk has

The catalog may answer from listings and candidates that it has kept. While these say what the disk
does, its answer is the one that the disk itself gives, and all that it keeps says what the disk
does.
-/

namespace ModuleHints

open Walk

variable {s : Settings} {d : Disk} {c : Prop} {here : Path} {p : Project} {path : String}
  {m : Memory}

/-- What is kept says what the disk does: each listing, and the candidates of each remembered
file. -/
structure Memory.Current (s : Settings) (d : Disk) (m : Memory) : Prop where
  /-- The listings do. -/
  forest : m.forest.Coherent d
  /-- The candidates do. -/
  cache : ∀ k found, m.cache.get? k = some found → ∃ root q, m.forest.At root k q ∧
    Place.eligible s d (m.forest.path root) q = .ok found

/-- What is kept is in order, and where `c` holds it says what the disk does. -/
structure Memory.Sound (s : Settings) (d : Disk) (c : Prop) (m : Memory) : Prop where
  /-- The trees are in order. -/
  tidy : m.forest.Tidy
  /-- What is kept says what the disk does. -/
  current : c → m.Current s d

namespace Memory

theorem Sound.forest (h : m.Sound s d c) : Walk.Sound d c m.forest :=
  ⟨h.tidy, fun hc => (h.current hc).forest⟩

/-- Remembered candidates stay right as long as no node is lost. -/
theorem Sound.keeps (h : m.Sound s d c) {f : Forest} (hkeeps : m.forest.Keeps f)
    (hf : Walk.Sound d c f) : Sound s d c { m with forest := f } := by
  refine ⟨hf.tidy, ?_⟩
  intro hc
  refine ⟨hf.coherent hc, ?_⟩
  intro k found hfound
  obtain ⟨root, q, hk, hq⟩ := (h.current hc).cache k found hfound
  obtain ⟨n, hn, -⟩ := hk.isRoot
  have hroot : f.path root = m.forest.path root := congrArg Place.path (hkeeps.place_eq hn)
  exact ⟨root, q, hk.keeps hkeeps, hroot ▸ hq⟩

/-- Candidates of a file that are right may be remembered. -/
theorem Sound.store (h : m.Sound s d c) {root k : NodeId} {q : Place} {found : List Candidate}
    (hk : m.forest.At root k q)
    (hfound : c → Place.eligible s d (m.forest.path root) q = .ok found) :
    Sound s d c { m with cache := m.cache.store k found } := by
  refine ⟨h.tidy, ?_⟩
  intro hc
  refine ⟨(h.current hc).forest, ?_⟩
  intro j others hothers
  by_cases hj : j = k
  · subst hj
    rw [Cache.get?_store_self] at hothers
    cases hothers
    exact ⟨root, q, hk, hfound hc⟩
  · rw [Cache.get?_store_of_ne _ hj] at hothers
    exact (h.current hc).cache j others hothers

/-- The candidates remembered of a file are those that the disk gives. -/
theorem Sound.remembered (h : m.Sound s d c) (hc : c) {root k : NodeId} {q : Place}
    {found : List Candidate} (hk : m.forest.At root k q) (hfound : m.cache.get? k = some found) :
    Place.eligible s d (m.forest.path root) q = .ok found := by
  obtain ⟨other, q', hk', hq'⟩ := (h.current hc).cache k found hfound
  have hroot := hk'.reached.eq_root hk.reached hk'.isRoot hk.isRoot
  have hsame : q' = q := hk'.place_eq.symm.trans hk.place_eq
  rwa [hroot, hsame] at hq'

end Memory

/-- The modules of an answer, and why there is none if the system could not be asked. -/
def Catalog.Findings.outcome (x : Findings) : List Candidate × Option DiskError :=
  (x.candidates, x.notes.findSome? Note.failure?)

/-- What is answered where the disk gives modules or an error. -/
def Place.outcome : Except DiskError (List Candidate) → List Candidate × Option DiskError
  | .ok found => (found, none)
  | .error e => ([], if e.isFound then none else some e)

namespace Catalog

/-- The file of a path is found where a disk has it. -/
theorem follows_find? {d₀ : Disk} {T : NodeId → Prop} (hd : d.WellFormed) (h₀ : d.Eased d₀)
    {f : Forest} (hf : SoundIn d₀ T f) (hr : f.At p.root p.root ⟨p.home, true⟩) (here : Path)
    (path : String) :
    Follows d d₀ T p.root (SomeAt p.root) f (p.find? here path)
      (Place.find? d₀ here p.home path) := by
  rw [Project.find?, Place.find?]
  cases p.home.below? ((Path.ofString path).absolute here) with
  | none => exact .pure hf .none
  | some names => exact follows_descend hd h₀ hf hr names

/-- The file of a path is found where the disk has it. -/
theorem agrees_find? (hd : d.WellFormed) {f : Forest} (hf : Sound d c f)
    (hr : f.At p.root p.root ⟨p.home, true⟩) (here : Path) (path : String) :
    Agrees d c (SomeAt p.root) f (p.find? here path) (Place.find? d here p.home path) :=
  (follows_find? hd (.refl d) (soundIn_iff.mpr hf) hr here path).agrees

/-- How the modules for the file at a path are found, or are not. -/
inductive Proceeds (s : Settings) (d : Disk) (here : Path) (p : Project) (path : String)
    (m : Memory) : Findings × Memory → Prop where
  /-- A folder on the way to the file can not be listed. -/
  | lost {e : DiskError} {f : Forest} : (p.find? here path).go d m.forest = (.error e, f) →
    Proceeds s d here p path m (⟨[], [.unreadable path e]⟩, { m with forest := f })
  /-- There is no such file. -/
  | absent {f : Forest} : (p.find? here path).go d m.forest = (.ok none, f) →
    Proceeds s d here p path m (⟨[], [.notFile path p]⟩, { m with forest := f })
  /-- It is a folder. -/
  | folder {k : NodeId} {f : Forest} : (p.find? here path).go d m.forest = (.ok (some k), f) →
    f.isFolder k = true →
    Proceeds s d here p path m (⟨[], [.notFile path p]⟩, { m with forest := f })
  /-- Its modules are remembered. -/
  | remembered {k : NodeId} {f : Forest} {found : List Candidate} :
    (p.find? here path).go d m.forest = (.ok (some k), f) → f.isFolder k = false →
    m.cache.get? k = some found →
    Proceeds s d here p path m (⟨found, [.remembered (f.path k)]⟩, { m with forest := f })
  /-- A folder in which modules are looked for can not be listed. -/
  | unread {k : NodeId} {f f' : Forest} {e : DiskError} :
    (p.find? here path).go d m.forest = (.ok (some k), f) → f.isFolder k = false →
    m.cache.get? k = none → (eligible s p k).go d f = (.error e, f') →
    Proceeds s d here p path m (⟨[], [.unreadable path e]⟩, { m with forest := f' })
  /-- Its modules are collected. -/
  | collected {k : NodeId} {f f' : Forest} {found : List Candidate} :
    (p.find? here path).go d m.forest = (.ok (some k), f) → f.isFolder k = false →
    m.cache.get? k = none → (eligible s p k).go d f = (.ok found, f') →
    Proceeds s d here p path m (⟨found, [.collected found.length (f'.path k)]⟩,
      { forest := f', cache := m.cache.store k found })

/-- The modules are found in one of these ways, or are not. -/
theorem proceeds_candidates (s : Settings) (d : Disk) (here : Path) (p : Project) (path : String)
    (m : Memory) : Proceeds s d here p path m (candidates s d here p path m) := by
  rw [candidates]
  rcases hfind : (p.find? here path).go d m.forest with ⟨out, f⟩
  cases out with
  | error e => exact .lost hfind
  | ok file? =>
    cases file? with
    | none => exact .absent hfind
    | some file =>
      cases hfolder : f.isFolder file with
      | true =>
        simp only [hfolder, if_true]
        exact .folder hfind hfolder
      | false =>
        simp only [hfolder]
        cases hget : m.cache.get? file with
        | some found => exact .remembered hfind hfolder hget
        | none =>
          rcases hwalk : (eligible s p file).go d f with ⟨found, f'⟩
          cases found with
          | error e =>
            exact .unread hfind hfolder hget hwalk
          | ok found =>
            exact .collected hfind hfolder hget hwalk

/-- What asking for the modules of a file may do to a memory, and what it gives. -/
structure Answers (s : Settings) (d : Disk) (c : Prop) (m : Memory) (m' : Memory)
    (found : Findings) (r : Except DiskError (List Candidate)) : Prop where
  /-- Nothing is lost. -/
  grows : m.forest.Grows m'.forest
  /-- The memory stays sound. -/
  sound : m'.Sound s d c
  /-- The answer is that of the disk. -/
  outcome : c → found.outcome = Place.outcome r

/-- Whatever keeps the system from listing a folder is noted. -/
theorem outcome_unreadable (path : String) (e : DiskError) :
    Findings.outcome ⟨[], [.unreadable path e]⟩ = Place.outcome (.error e) := by
  rw [Findings.outcome, Place.outcome, List.findSome?_cons, List.findSome?_nil, Note.failure?]
  cases e.isFound <;> rfl

/-- The catalog answers what the disk gives. -/
theorem answers_candidates (hd : d.WellFormed) (hm : m.Sound s d c)
    (hr : m.forest.At p.root p.root ⟨p.home, true⟩) :
    Answers s d c m (candidates s d here p path m).2 (candidates s d here p path m).1
      (Place.modulesFor s d here p.home path) := by
  have hfind := agrees_find? hd hm.forest hr here path
  rw [candidates]
  obtain ⟨f, hgrows, hf, ⟨e, hgo, hplace⟩ | ⟨file?, q?, hgo, hfile, hplace⟩⟩ := hfind.run_cases
  · refine hgo ▸ ⟨hgrows, hm.keeps hgrows.keeps hf, ?_⟩
    intro hc
    rw [Place.modulesFor_of_error (hplace hc)]
    exact outcome_unreadable path e
  have hwalked := hm.keeps hgrows.keeps hf
  have hr' := hr.keeps hgrows.keeps
  rw [hgo]
  cases hfile with
  | none =>
    refine ⟨hgrows, hwalked, ?_⟩
    intro hc
    rw [Place.modulesFor_of_none (hplace hc)]
    rfl
  | @some file q hk =>
    cases hfolder : q.isFolder with
    | true =>
      simp only [hk.isFolder_eq, hfolder, if_true]
      refine ⟨hgrows, hwalked, ?_⟩
      intro hc
      rw [Place.modulesFor_of_isFolder (hplace hc) hfolder]
      rfl
    | false =>
      simp only [hk.isFolder_eq, hfolder]
      cases hfound : m.cache.get? file with
      | some found =>
        refine ⟨hgrows, hwalked, ?_⟩
        intro hc
        have hremembered := hwalked.remembered hc hk hfound
        rw [hr'.path_eq] at hremembered
        rw [Place.modulesFor_of_not_isFolder (hplace hc) hfolder, hremembered]
        rfl
      | none =>
        have heligible := agrees_eligible (s := s) hd hf hr' hk
        obtain ⟨f', hgrows', hf', ⟨e, hgo', hplace'⟩ | ⟨found, found', hgo', rfl, hplace'⟩⟩ :=
          heligible.run_cases
        · refine hgo' ▸ ⟨hgrows.trans hgrows', hwalked.keeps hgrows'.keeps hf', ?_⟩
          intro hc
          rw [Place.modulesFor_of_not_isFolder (hplace hc) hfolder, hplace' hc]
          exact outcome_unreadable path e
        · have hroot := (hr'.keeps hgrows'.keeps).path_eq
          have hright : c → Place.eligible s d (f'.path p.root) q = .ok found := by
            rw [hroot]
            exact hplace'
          have hstored := (hwalked.keeps hgrows'.keeps hf').store (hk.keeps hgrows'.keeps) hright
          refine hgo' ▸ ⟨hgrows.trans hgrows', hstored, ?_⟩
          intro hc
          rw [Place.modulesFor_of_not_isFolder (hplace hc) hfolder, hplace' hc]
          rfl

section Complete

variable (s d here m) (document : Document) (cursor : Int) (project : Option Project)
  (path : Option String)

/-- The completions of an answer depend on the modules found, where modules are asked for. -/
theorem set_complete :
    (complete s d here document cursor project path m).1.set =
      if document.asksForModules cursor then
        document.moduleSet s cursor (candidatesFor s d here project path m).1.outcome.1
      else document.complete s cursor [] := by
  rw [complete]
  split <;> rfl

/-- A request fails exactly where the system could not be asked for the modules. -/
theorem failure?_complete :
    (complete s d here document cursor project path m).1.failure? =
      if document.asksForModules cursor then (candidatesFor s d here project path m).1.outcome.2
      else none := by
  have hjudged :
      ((document.requestVerdict? cursor).toList.map Note.judged).findSome? Note.failure? =
        none := by
    rw [List.findSome?_eq_none_iff]
    intro n hn
    obtain ⟨verdict, -, rfl⟩ := List.mem_map.mp hn
    rfl
  rw [complete]
  split
  · rw [Answer.failure?, List.findSome?_append, List.findSome?_append, hjudged, Option.none_or]
    exact Option.or_none
  · exact hjudged

/-- What a request leaves behind is what asking for the modules does. -/
theorem memory_complete :
    (complete s d here document cursor project path m).2 =
      if document.asksForModules cursor then (candidatesFor s d here project path m).2 else m := by
  rw [complete]
  split <;> rfl

end Complete

end Catalog

end ModuleHints

import ModuleHints.Proofs.Catalog.Search

/-!
# Packages, modules and peers

What a search takes and where it looks is said by what folders hold. A package is taken as a whole,
and neither a package nor a folder named like a modules folder is looked into. They differ where a
package is named like a modules folder: a search in a modules folder takes it, and one beside a file
leaves it out.
-/

namespace ModuleHints

/-- The first thing by name of those that a folder holds under a name, compared without regard to
case. -/
structure Disk.FirstNamed (d : Disk) (folder : Path) (name : String) (m : Place) : Prop where
  /-- The folder holds it. -/
  holds : d.Holds folder m
  /-- It has the name. -/
  named : Unicode.sameFold m.path.name name = true
  /-- It is the first one. -/
  least : ∀ q, d.Holds folder q → Unicode.sameFold q.path.name name = true →
    m.path.name ≤ q.path.name

/-- There is one first thing of a name at most. -/
theorem Disk.FirstNamed.eq {d : Disk} {folder : Path} {name : String} {m m' : Place}
    (h : d.FirstNamed folder name m) (h' : d.FirstNamed folder name m') (hd : d.WellFormed) :
    m = m' :=
  h.holds.eq_of_name_eq hd h'.holds
    (String.le_antisymm (h.least m' h'.holds h'.named) (h'.least m h.holds h.named))

namespace Place

section Kinds

variable (s : Settings) (d : Disk) (p : Place)

/-- A package holds something under the name of a package file or of a main file. -/
def IsPackage : Prop :=
  ∃ q, d.Holds p.path q ∧ (Unicode.sameFold q.path.name s.packageFile = true ∨
    Unicode.sameFold q.path.name s.mainFile = true)

/-- A source file. -/
def IsSourceFile : Prop := p.isFolder = false ∧ p.path.extension = Unicode.lowerCase s.extension

/-- A place that nothing is looked for below: a package, or one named like a modules folder. -/
def IsClosed : Prop := p.IsPackage s d ∨ Unicode.sameFold p.path.name s.modulesFolder = true

/-- What a modules folder offers: source files and packages. -/
def IsModule : Prop := p.IsSourceFile s ∨ p.isFolder = true ∧ p.IsPackage s d

/-- What the folder of a file offers: source files, and packages not named like a modules folder. -/
def IsPeer : Prop :=
  p.IsSourceFile s ∨
    p.isFolder = true ∧ p.IsPackage s d ∧ ¬Unicode.sameFold p.path.name s.modulesFolder = true

end Kinds

variable {s : Settings} {d : Disk} {p : Place}

section Names

variable {name : String} {found : Option Place}

/-- Looking for a name looks through all that a folder holds. -/
theorem child?_eq_ok (h : p.child? d name = .ok found) :
    ∃ held, p.children d = .ok held ∧
      found = held.find? fun q => Unicode.sameFold q.path.name name := by
  rw [child?] at h
  obtain ⟨held, hheld, h⟩ := exists_of_bind_eq_ok h
  cases h
  exact ⟨held, hheld, rfl⟩

theorem exists_child? (h : d.Readable p) (name : String) : ∃ found, p.child? d name = .ok found := by
  obtain ⟨held, hheld⟩ := exists_children h
  exact ⟨_, by rw [child?, hheld]; rfl⟩

/-- A folder has a name where it holds something under it. -/
theorem isSome_child?_iff (hd : d.WellFormed) (hp : p.path.Proper) (hfolder : p.isFolder = true)
    (h : p.child? d name = .ok found) :
    found.isSome = true ↔ ∃ q, d.Holds p.path q ∧ Unicode.sameFold q.path.name name = true := by
  obtain ⟨held, hheld, rfl⟩ := child?_eq_ok h
  have hmem := (children_iff hd hp hheld).1
  rw [List.find?_isSome]
  constructor
  · rintro ⟨q, hq, hname⟩
    exact ⟨q, ((hmem q).mp hq).2, hname⟩
  · rintro ⟨q, hq, hname⟩
    exact ⟨q, (hmem q).mpr ⟨hfolder, hq⟩, hname⟩

/-- What is found under a name is the first thing that the folder holds under it. -/
theorem firstNamed_of_child? (hd : d.WellFormed) (hp : p.path.Proper) {m : Place}
    (h : p.child? d name = .ok (some m)) : d.FirstNamed p.path name m := by
  obtain ⟨held, hheld, hm⟩ := child?_eq_ok h
  obtain ⟨hmem, hsorted⟩ := children_iff hd hp hheld
  obtain ⟨hname, before, after, rfl, hbefore⟩ := List.find?_eq_some_iff_append.mp hm.symm
  have hafter := (List.pairwise_cons.mp (List.pairwise_append.mp hsorted).2.1).1
  refine ⟨((hmem m).mp (by simp)).2, hname, ?_⟩
  intro q hq hqname
  have hfolder := ((hmem m).mp (by simp)).1
  rcases List.mem_append.mp ((hmem q).mpr ⟨hfolder, hq⟩) with hq' | hq'
  · have hnot := hbefore q hq'
    simp [hqname] at hnot
  · rcases List.mem_cons.mp hq' with rfl | hq'
    · exact String.le_refl _
    · exact String.not_lt.mp fun hlt => String.lt_asymm hlt (hafter q hq')

end Names

/-- A folder is a package where it is found to be one. -/
theorem isPackage_iff (hd : d.WellFormed) (hp : p.path.Proper) (hfolder : p.isFolder = true)
    {b : Bool} (h : p.isPackage s d = .ok b) : b = true ↔ p.IsPackage s d := by
  rw [isPackage] at h
  obtain ⟨file, hfile, h⟩ := exists_of_bind_eq_ok h
  have hfile := isSome_child?_iff hd hp hfolder hfile
  cases file with
  | some q =>
    cases h
    obtain ⟨r, hr, hname⟩ := hfile.mp rfl
    simp only [true_iff]
    exact ⟨r, hr, .inl hname⟩
  | none =>
    obtain ⟨main, hmain, h⟩ := exists_of_bind_eq_ok h
    have hmain := isSome_child?_iff hd hp hfolder hmain
    cases h
    constructor
    · intro hsome
      obtain ⟨r, hr, hname⟩ := hmain.mp hsome
      exact ⟨r, hr, .inr hname⟩
    · rintro ⟨r, hr, hname | hname⟩
      · cases hfile.mpr ⟨r, hr, hname⟩
      · exact hmain.mpr ⟨r, hr, hname⟩

theorem isSource_iff : p.isSource s = true ↔ p.path.extension = Unicode.lowerCase s.extension :=
  beq_iff_eq

section Turns

variable {b : Bool}

/-- A file in a modules folder is taken or not by its name. -/
theorem packageTurn_of_file (h : p.isFolder = false) :
    packageTurn s d p = .ok (if p.isSource s then .take else .skip) := by
  rw [packageTurn, h]
  rfl

/-- A folder in a modules folder is taken if it is a package, and else looked into unless its name
forbids it. -/
theorem packageTurn_of_folder (h : p.isFolder = true) (hb : p.isPackage s d = .ok b) :
    packageTurn s d p =
      .ok (if b then .take else if p.isModulesFolder s then .skip else .enter) := by
  rw [packageTurn, h, hb]
  cases b <;> rfl

/-- A file beside a file is taken or not by its name. -/
theorem sourceTurn_of_file (h : p.isFolder = false) :
    sourceTurn s d p = .ok (if p.isSource s then .take else .skip) := by
  rw [sourceTurn, h]
  rfl

/-- A folder beside a file that is named like a modules folder is left out. -/
theorem sourceTurn_of_modules (h : p.isFolder = true) (hm : p.isModulesFolder s = true) :
    sourceTurn s d p = .ok .skip := by
  rw [sourceTurn, h, hm]
  rfl

/-- Any other folder beside a file is taken if it is a package, and else looked into. -/
theorem sourceTurn_of_folder (h : p.isFolder = true) (hm : p.isModulesFolder s = false)
    (hb : p.isPackage s d = .ok b) :
    sourceTurn s d p = .ok (if b then .take else .enter) := by
  rw [sourceTurn, h, hm, hb]
  rfl

end Turns

/-- Of a folder that shows what it holds it is clear whether it is a package. -/
theorem exists_isPackage_of_children (h : ∃ held, p.children d = .ok held) :
    ∃ b, p.isPackage s d = .ok b := by
  obtain ⟨held, hheld⟩ := h
  have hchild : ∀ name, ∃ found, p.child? d name = .ok found :=
    fun name => ⟨_, by rw [child?, hheld]; rfl⟩
  obtain ⟨file, hfile⟩ := hchild s.packageFile
  obtain ⟨main, hmain⟩ := hchild s.mainFile
  rw [isPackage, hfile, hmain]
  cases file with
  | some q => exact ⟨true, rfl⟩
  | none => exact ⟨main.isSome, rfl⟩

theorem exists_isPackage (h : d.Readable p) : ∃ b, p.isPackage s d = .ok b :=
  exists_isPackage_of_children (exists_children h)

/-- What a search does with a folder is clear where the folder is readable. -/
theorem exists_packageTurn (h : p.isFolder = true → d.Readable p) :
    ∃ t, packageTurn s d p = .ok t := by
  cases hfolder : p.isFolder with
  | false => exact ⟨_, packageTurn_of_file hfolder⟩
  | true =>
    obtain ⟨b, hb⟩ := exists_isPackage (h hfolder)
    exact ⟨_, packageTurn_of_folder hfolder hb⟩

/-- What a search does with a folder is clear where the folder is readable. -/
theorem exists_sourceTurn (h : p.isFolder = true → d.Readable p) :
    ∃ t, sourceTurn s d p = .ok t := by
  cases hfolder : p.isFolder with
  | false => exact ⟨_, sourceTurn_of_file hfolder⟩
  | true =>
    cases hmodules : p.isModulesFolder s with
    | true => exact ⟨_, sourceTurn_of_modules hfolder hmodules⟩
    | false =>
      obtain ⟨b, hb⟩ := exists_isPackage (h hfolder)
      exact ⟨_, sourceTurn_of_folder hfolder hmodules hb⟩

/-- A search in a modules folder takes modules, and looks into what is not closed. -/
theorem decides_packageTurn (hd : d.WellFormed) :
    Decides (packageTurn s d) (IsClosed s d) (IsModule s d) := by
  have hcases : ∀ {q t}, q.path.Proper → packageTurn s d q = .ok t →
      (t = .take ↔ q.IsModule s d) ∧ (t = .enter ↔ q.isFolder = true ∧ ¬q.IsClosed s d) := by
    intro q t hq h
    cases hfolder : q.isFolder with
    | false =>
      rw [packageTurn_of_file hfolder, Except.ok.injEq] at h
      by_cases hsource : q.path.extension = Unicode.lowerCase s.extension
      · simp [← h, IsModule, IsSourceFile, hfolder, isSource_iff, hsource]
      · simp [← h, IsModule, IsSourceFile, hfolder, isSource_iff, hsource]
    | true =>
      cases hpackage : q.isPackage s d with
      | error e =>
        rw [packageTurn, hfolder, hpackage] at h
        cases h
      | ok b =>
        have hb := isPackage_iff hd hq hfolder hpackage
        rw [packageTurn_of_folder hfolder hpackage, Except.ok.injEq, isModulesFolder] at h
        by_cases hp : q.IsPackage s d
        · simp [← h, IsModule, IsClosed, hfolder, hb.mpr hp, hp]
        · by_cases hname : Unicode.sameFold q.path.name s.modulesFolder = true
          · simp [← h, IsModule, IsSourceFile, IsClosed, hfolder, hb, hp, hname]
          · simp [← h, IsModule, IsSourceFile, IsClosed, hfolder, hb, hp, hname]
  exact ⟨fun hq h => (hcases hq h).1, fun hq h => (hcases hq h).2⟩

/-- A search beside a file takes peers, and looks into what is not closed. -/
theorem decides_sourceTurn (hd : d.WellFormed) :
    Decides (sourceTurn s d) (IsClosed s d) (IsPeer s d) := by
  have hcases : ∀ {q t}, q.path.Proper → sourceTurn s d q = .ok t →
      (t = .take ↔ q.IsPeer s d) ∧ (t = .enter ↔ q.isFolder = true ∧ ¬q.IsClosed s d) := by
    intro q t hq h
    cases hfolder : q.isFolder with
    | false =>
      rw [sourceTurn_of_file hfolder, Except.ok.injEq] at h
      by_cases hsource : q.path.extension = Unicode.lowerCase s.extension
      · simp [← h, IsPeer, IsSourceFile, hfolder, isSource_iff, hsource]
      · simp [← h, IsPeer, IsSourceFile, hfolder, isSource_iff, hsource]
    | true =>
      cases hmodules : q.isModulesFolder s with
      | true =>
        rw [sourceTurn_of_modules hfolder hmodules, Except.ok.injEq] at h
        rw [isModulesFolder] at hmodules
        simp [← h, IsPeer, IsSourceFile, IsClosed, hfolder, hmodules]
      | false =>
        cases hpackage : q.isPackage s d with
        | error e =>
          rw [sourceTurn, hfolder, hmodules, hpackage] at h
          cases h
        | ok b =>
          have hb := isPackage_iff hd hq hfolder hpackage
          rw [sourceTurn_of_folder hfolder hmodules hpackage, Except.ok.injEq] at h
          rw [isModulesFolder] at hmodules
          by_cases hp : q.IsPackage s d
          · simp [← h, IsPeer, IsClosed, hfolder, hmodules, hb.mpr hp, hp]
          · simp [← h, IsPeer, IsSourceFile, IsClosed, hfolder, hmodules, hb, hp]
  exact ⟨fun hq h => (hcases hq h).1, fun hq h => (hcases hq h).2⟩

end Place

end ModuleHints

import Blueprint.Command.Run
import Blueprint.Proofs.Path
import Blueprint.Sandbox

/-!
# Writing entries of a directory

Whatever is put at a place is there afterwards, and nothing changes anywhere else. Walking along a
path looks at nothing but directories until its last step. So a file that is written changes no
directory on the way to another one, and entries of one directory under different names keep out of
each other's way: after all of them are written, each one holds what was written to it.
-/

namespace Blueprint

namespace Files

variable {t t' : Files} {p q place : Place} {c : Content} {ds : List String} {r : Target}
  {directory name path : String} {bytes : List UInt8}

/-! ## Putting -/

theorem lookup_map_put (entries : List (Place × Content)) (p q : Place) (c : Content) :
    (entries.map fun e => if e.1 = q then (q, c) else e).lookup p =
      if p = q then (entries.lookup q).map fun _ => c else entries.lookup p := by
  induction entries with
  | nil => simp
  | cons e es ih =>
    obtain ⟨place, content⟩ := e
    rw [List.map_cons, List.lookup_cons, List.lookup_cons, List.lookup_cons, ih]
    by_cases hp : p = q
    · by_cases hplace : place = q
      · simp [hplace, hp]
      · have hne : (q == place) = false := beq_eq_false_iff_ne.mpr (Ne.symm hplace)
        simp [hplace, hp, hne]
    · by_cases hplace : place = q
      · have hne : (p == q) = false := beq_eq_false_iff_ne.mpr hp
        simp [hplace, hp, hne]
      · simp [hplace, hp]

theorem lookup_put (t : Files) (p q : Place) (c : Content) :
    (t.put q c).entries.lookup p = if p = q then some c else t.entries.lookup p := by
  rw [put]
  by_cases hthere : (t.entries.lookup q).isSome
  · rw [if_pos hthere, lookup_map_put]
    obtain ⟨old, hold⟩ := Option.isSome_iff_exists.mp hthere
    rw [hold, Option.map_some]
  · rw [if_neg hthere, List.lookup_append]
    by_cases hp : p = q
    · rw [hp, Option.not_isSome_iff_eq_none.mp hthere]
      simp
    · have hne : (p == q) = false := beq_eq_false_iff_ne.mpr hp
      simp [List.lookup_cons, hp, hne]

/-- Nothing changes at another place. -/
theorem content?_put_of_ne (h : p ≠ q) : (t.put q c).content? p = t.content? p := by
  rw [content?, content?, lookup_put, if_neg h]

/-- What is put at a place is there. -/
theorem content?_put_self (h : q ≠ []) : (t.put q c).content? q = some c := by
  rw [content?, if_neg h, lookup_put, if_pos rfl]

@[simp]
theorem workingDirectory_put : (t.put q c).workingDirectory = t.workingDirectory := by
  rw [put]
  split <;> rfl

/-! ## Walking to an entry -/

/-- Where the entry of a name in a directory leads. -/
def entry (t : Files) (p : Place) (name : String) : Except OsError Target :=
  if maxPartLength < name.utf8ByteSize then .error .nameTooLong
  else
    match t.content? (p ++ [name]) with
    | some c => .ok (.present (p ++ [name]) c)
    | none => .ok (.absent (p ++ [name]))

/-- A name that stands for an entry. -/
def IsName (name : String) : Prop := name ≠ "." ∧ name ≠ ".."

theorem above_of_walkAbove (h : walkAbove ds = .ok r) : r = .above := by
  induction ds with
  | nil => exact (Except.ok.inj h).symm
  | cons part ds ih =>
    rw [walkAbove] at h
    split at h
    · exact ih h
    · split at h <;> exact absurd h (by simp)

/-- A walk whose last step is a name goes to a directory first, and then to its entry. -/
theorem walk_append_singleton (hname : IsName name) (hr : r ≠ .above) :
    t.walk place (ds ++ [name]) = .ok r ↔
      ∃ p, t.walk place ds = .ok (.present p .directory) ∧ t.entry p name = .ok r := by
  induction ds generalizing place with
  | nil =>
    have hentry : t.walk place [name] = t.entry place name := by
      rw [walk, if_neg hname.1, if_neg hname.2, entry]
      cases hcontent : t.content? (place ++ [name]) with
      | none => rfl
      | some c => cases c <;> rfl
    rw [List.nil_append, hentry, walk]
    constructor
    · exact fun h => ⟨place, rfl, h⟩
    · rintro ⟨p, hp, h⟩
      obtain ⟨rfl, -⟩ := Target.present.inj (Except.ok.inj hp)
      exact h
  | cons part ds ih =>
    have hlonger : (ds ++ [name]).isEmpty = false := by simp
    rw [List.cons_append, walk, walk, hlonger]
    split
    · exact ih
    · split
      · split
        · constructor
          · exact fun h => absurd (above_of_walkAbove h) hr
          · rintro ⟨p, hp, -⟩
            exact absurd (above_of_walkAbove hp) (by simp)
        · exact ih
      · split
        · simp
        · cases t.content? (place ++ [part]) with
          | none => cases ds <;> simp
          | some c =>
            cases c with
            | directory => exact ih
            | file bytes => cases ds <;> simp

/-- A walk to a directory does not mind what becomes of a place that is none. -/
theorem walk_put (hq : t.content? q ≠ some .directory)
    (h : t.walk place ds = .ok (.present p .directory)) :
    (t.put q c).walk place ds = .ok (.present p .directory) := by
  induction ds generalizing place with
  | nil => exact h
  | cons part ds ih =>
    rw [walk] at h ⊢
    split at h
    · next hdot =>
      rw [if_pos hdot]
      exact ih h
    · next hdot =>
      rw [if_neg hdot]
      split at h
      · next hup =>
        rw [if_pos hup]
        split at h
        · exact absurd (above_of_walkAbove h) (by simp)
        · next hplace =>
          rw [if_neg hplace]
          exact ih h
      · next hup =>
        rw [if_neg hup]
        split at h
        · exact absurd h (by simp)
        · next hlength =>
          rw [if_neg hlength]
          cases hcontent : t.content? (place ++ [part]) with
          | none =>
            rw [hcontent] at h
            cases ds <;> exact absurd h (by simp)
          | some old =>
            rw [hcontent] at h
            cases old with
            | file bytes => cases ds <;> exact absurd h (by simp)
            | directory =>
              have hne : place ++ [part] ≠ q := by
                rintro rfl
                exact hq hcontent
              rw [content?_put_of_ne hne, hcontent]
              exact ih h

/-! ## Entries -/

/-- A path leads to a directory of the tree. -/
structure Holds (t : Files) (directory : String) (p : Place) : Prop where
  /-- It starts in the tree. -/
  isAbsolute_eq : Path.isAbsolute directory = false
  /-- It leads to the directory. -/
  walk_eq : t.walk t.workingDirectory (Path.steps directory) = .ok (.present p .directory)

/-- A path that can be looked up, and that may lead to a file. -/
structure Lawful (path : String) : Prop where
  nul_notMem : '\x00' ∉ path.toList
  ne_empty : path ≠ ""
  length_le : ¬maxPathLength < path.utf8ByteSize
  wantsDirectory_eq : wantsDirectory path = false

theorem Holds.put (h : t.Holds directory p) (hq : t.content? q ≠ some .directory) :
    (t.put q c).Holds directory p :=
  ⟨h.isAbsolute_eq, by rw [workingDirectory_put]; exact walk_put hq h.walk_eq⟩

theorem Holds.unique (h : t.Holds directory p) (h' : t.Holds directory q) : p = q := by
  have hsame := h.walk_eq.symm.trans h'.walk_eq
  exact (Target.present.inj (Except.ok.inj hsame)).1

/-- A path that leads into the tree can be looked up, and is walked along from the working
directory. -/
theorem of_locate_eq_ok (h : t.locate path = .ok r) (hr : r ≠ .above) :
    '\x00' ∉ path.toList ∧ path ≠ "" ∧ ¬maxPathLength < path.utf8ByteSize ∧
      Path.isAbsolute path = false ∧ t.walk t.workingDirectory (Path.steps path) = .ok r := by
  rw [locate] at h
  split at h
  · exact absurd h (by simp)
  · next hnul =>
    split at h
    · exact absurd h (by simp)
    · next hne =>
      split at h
      · exact absurd h (by simp)
      · next hlength =>
        split at h
        · exact absurd (above_of_walkAbove h) hr
        · next habsolute => exact ⟨hnul, hne, hlength, by simpa using habsolute, h⟩

/-- What is written goes to a place that holds no directory. -/
theorem of_write_eq_ok (h : t.write path bytes = .ok t') :
    ∃ r q, t.locate path = .ok r ∧ (r = .absent q ∨ ∃ old, r = .present q (.file old)) ∧
      wantsDirectory path = false ∧ t' = t.put q (.file bytes) := by
  rw [write] at h
  split at h
  · exact absurd h (by simp)
  · exact absurd h (by simp)
  · exact absurd h (by simp)
  · next q old hlocate =>
    split at h
    · exact absurd h (by simp)
    · next hwants =>
      exact ⟨_, q, hlocate, Or.inr ⟨old, rfl⟩, by simpa using hwants, (Except.ok.inj h).symm⟩
  · next q hlocate =>
    split at h
    · exact absurd h (by simp)
    · next hwants =>
      exact ⟨_, q, hlocate, Or.inl rfl, by simpa using hwants, (Except.ok.inj h).symm⟩

variable (he : Path.IsEntry directory name path) (hname : IsName name)

include he hname

/-- A file that is written to an entry of a directory is put there, where no directory was. -/
theorem write_entry (h : t.write path bytes = .ok t') :
    ∃ p, t.Holds directory p ∧ t.content? (p ++ [name]) ≠ some .directory ∧ Lawful path ∧
      name.utf8ByteSize ≤ maxPartLength ∧ t' = t.put (p ++ [name]) (.file bytes) := by
  obtain ⟨r, q, hlocate, hr, hwants, rfl⟩ := of_write_eq_ok h
  have hbelow : r ≠ .above := by
    rcases hr with rfl | ⟨old, rfl⟩ <;> simp
  obtain ⟨hnul, hne, hlength, habsolute, hwalk⟩ := of_locate_eq_ok hlocate hbelow
  rw [he.steps_eq] at hwalk
  rw [he.isAbsolute_eq] at habsolute
  obtain ⟨p, hp, hentry⟩ := (walk_append_singleton hname hbelow).mp hwalk
  rw [entry] at hentry
  split at hentry
  · exact absurd hentry (by simp)
  · next hshort =>
    have hplace : q = p ++ [name] ∧ t.content? (p ++ [name]) ≠ some .directory := by
      cases hcontent : t.content? (p ++ [name]) with
      | none =>
        rw [hcontent] at hentry
        obtain rfl := Except.ok.inj hentry
        rcases hr with hr | ⟨old, hr⟩
        · exact ⟨(Target.absent.inj hr).symm, by simp⟩
        · exact absurd hr (by simp)
      | some c =>
        rw [hcontent] at hentry
        obtain rfl := Except.ok.inj hentry
        rcases hr with hr | ⟨old, hr⟩
        · exact absurd hr (by simp)
        · obtain ⟨hq, rfl⟩ := Target.present.inj hr
          exact ⟨hq.symm, by simp⟩
    obtain ⟨rfl, hplace⟩ := hplace
    exact ⟨p, ⟨habsolute, hp⟩, hplace, ⟨hnul, hne, hlength, hwants⟩, by omega, rfl⟩

/-- What is read from an entry of a directory is the file that is there. -/
theorem read_entry (hlawful : Lawful path) (hlength : name.utf8ByteSize ≤ maxPartLength)
    (hd : t.Holds directory p) (hfile : t.content? (p ++ [name]) = some (.file bytes)) :
    t.read path = .ok bytes := by
  have hentry : t.entry p name = .ok (.present (p ++ [name]) (.file bytes)) := by
    rw [entry, if_neg (by omega), hfile]
  have hlocate : t.locate path = .ok (.present (p ++ [name]) (.file bytes)) := by
    rw [locate, if_neg hlawful.nul_notMem, if_neg hlawful.ne_empty, if_neg hlawful.length_le,
      he.isAbsolute_eq, hd.isAbsolute_eq, if_neg (by simp), he.steps_eq]
    exact (walk_append_singleton hname (by simp)).mpr ⟨p, hd.walk_eq, hentry⟩
  rw [read, hlocate]
  simp [hlawful.wantsDirectory_eq]

end Files

/-! ## Writing one file after another -/

variable {s s' : Sandbox} {directory path text : String} {fs : List (String × String)}

/-- The first file is written, and then the others. -/
theorem writeFiles_cons_eq_ok (h : (writeFiles ((path, text) :: fs) : SandboxM _) s = (.ok (), s')) :
    ∃ files, s.files.write path text.toUTF8.toList = .ok files ∧
      (writeFiles fs : SandboxM _) { s with files } = (.ok (), s') := by
  cases hwrite : s.files.write path text.toUTF8.toList with
  | error e =>
    rw [writeFiles] at h
    simp only [bind, StateT.bind, Host.writeFile, hwrite] at h
    exact absurd (Prod.mk.inj h).1 (by simp)
  | ok files =>
    rw [writeFiles] at h
    simp only [bind, StateT.bind, Host.writeFile, hwrite] at h
    exact ⟨files, rfl, h⟩

/-- Where anything is written to an entry of a directory, the directory is there. -/
theorem exists_holds_of_writeFiles (hne : fs ≠ [])
    (hentries : ∀ f ∈ fs, ∃ name, Path.IsEntry directory name f.1 ∧ Files.IsName name)
    (h : (writeFiles fs : SandboxM _) s = (.ok (), s')) : ∃ p, s.files.Holds directory p := by
  cases fs with
  | nil => exact absurd rfl hne
  | cons f fs =>
    obtain ⟨name, he, hname⟩ := hentries f List.mem_cons_self
    obtain ⟨files, hwrite, -⟩ := writeFiles_cons_eq_ok h
    obtain ⟨p, hd, -⟩ := Files.write_entry he hname hwrite
    exact ⟨p, hd⟩

/-- Files that are written to entries of a directory under different names. The directory stays where
it is, nothing else changes than its entries, and each file holds in the end what was written to
it. -/
theorem writeFiles_entries
    (hentries : ∀ f ∈ fs, ∃ name, Path.IsEntry directory name f.1 ∧ Files.IsName name)
    (hnd : (fs.map fun f => Path.steps f.1).Nodup)
    (h : (writeFiles fs : SandboxM _) s = (.ok (), s')) :
    (∀ p, s.files.Holds directory p → s'.files.Holds directory p) ∧
      (∀ q, s'.files.content? q ≠ s.files.content? q → ∃ f ∈ fs, ∃ p name,
        s.files.Holds directory p ∧ Path.IsEntry directory name f.1 ∧ q = p ++ [name]) ∧
      ∀ f ∈ fs, s'.files.read f.1 = .ok f.2.toUTF8.toList := by
  induction fs generalizing s with
  | nil =>
    obtain ⟨-, rfl⟩ := Prod.mk.inj h
    exact ⟨fun _ hp => hp, fun q hq => absurd rfl hq, fun f hf => absurd hf List.not_mem_nil⟩
  | cons f fs ih =>
    obtain ⟨path, text⟩ := f
    obtain ⟨⟨name, he, hname⟩, hothers⟩ := List.forall_mem_cons.mp hentries
    obtain ⟨hnew, hnd⟩ := List.nodup_cons.mp hnd
    obtain ⟨files, hwrite, hrest⟩ := writeFiles_cons_eq_ok h
    obtain ⟨p, hd, hfree, hlawful, hlength, rfl⟩ := Files.write_entry he hname hwrite
    have hnow := hd.put (c := .file text.toUTF8.toList) hfree
    obtain ⟨hkept, hchanged, hread⟩ := ih hothers hnd hrest
    refine ⟨fun p' hp' => hkept p' (hp'.put hfree), ?_, ?_⟩
    · intro q hq
      by_cases hlater : s'.files.content? q =
          (s.files.put (p ++ [name]) (.file text.toUTF8.toList)).content? q
      · have hplace : q = p ++ [name] := by
          by_contra hne
          exact hq (hlater.trans (Files.content?_put_of_ne hne))
        exact ⟨_, List.mem_cons_self, p, name, hd, he, hplace⟩
      · obtain ⟨f, hf, p', name', hp', he', rfl⟩ := hchanged q hlater
        obtain rfl := hp'.unique hnow
        exact ⟨f, List.mem_cons_of_mem _ hf, p', name', hd, he', rfl⟩
    · refine List.forall_mem_cons.mpr ⟨?_, hread⟩
      -- a later file at the same place would have the same name
      have hfile : s'.files.content? (p ++ [name]) = some (.file text.toUTF8.toList) := by
        by_contra hne
        rw [← Files.content?_put_self (t := s.files) (q := p ++ [name]) (by simp)] at hne
        obtain ⟨f, hf, p', name', -, he', hplace⟩ := hchanged _ hne
        obtain ⟨-, hsame⟩ := List.append_inj' hplace rfl
        have hsteps : Path.steps f.1 = Path.steps path := by
          rw [he'.steps_eq, he.steps_eq, hsame]
        exact hnew (List.mem_map.mpr ⟨f, hf, hsteps⟩)
      exact Files.read_entry he hname hlawful hlength (hkept p hnow) hfile

end Blueprint

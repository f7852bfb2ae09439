import Blueprint.Proofs.Artifacts
import Blueprint.Proofs.Files

/-!
# The files of artifacts

Artifacts are written to a directory, each class source to a file that is named after its class. The
name of a class is any text, and the file of a class whose name holds a slash is none of the
directory. If there is no such class, all files are entries of the directory, under different names.
Then nothing is written elsewhere, and each file holds in the end what was written to it.
-/

namespace Blueprint.Artifacts

variable {config : Config} {text : String} {a : Artifacts} {directory schemaName : String}

/-- The names of the files of artifacts, class sources first. -/
def fileNames (a : Artifacts) (schemaName : String) : List String :=
  a.sources.map Skeleton.SourceFile.fileName ++ [schemaFileName schemaName]

theorem map_fst_files (a : Artifacts) (directory schemaName : String) :
    (a.files directory schemaName).map Prod.fst =
      (a.fileNames schemaName).map (Path.join directory) := by
  rw [files, fileNames, List.map_append, List.map_append, List.map_map, List.map_map]
  rfl

/-! ## Names of files -/

/-- No class source is named like a schema. -/
theorem append_java_ne_append_sql (s t : String) : s ++ ".java" ≠ t ++ ".sql" := by
  intro h
  have hlast := congrArg (fun u => u.toList.getLast?) h
  simp [List.getLast?_append] at hlast

/-- No file is named like a directory is told to be. -/
theorem isName_append {s ending : String} (h : 2 < ending.length) : Files.IsName (s ++ ending) := by
  constructor <;>
  · intro hname
    have hlength := congrArg String.length hname
    have hone : ".".length = 1 := rfl
    have htwo : "..".length = 2 := rfl
    rw [String.length_append] at hlength
    omega

theorem slash_mem_append_iff {s ending : String} (h : '/' ∉ ending.toList) :
    '/' ∈ (s ++ ending).toList ↔ '/' ∈ s.toList := by
  rw [String.toList_append, List.mem_append, or_iff_left h]

theorem append_ne_empty {s ending : String} (h : ending ≠ "") : s ++ ending ≠ "" := by
  intro hempty
  exact h (String.append_eq_empty_iff.mp hempty).2

/-- The class sources of a text are those of the classes that are read from it. -/
theorem map_className_sources {d : Description} (hd : Description.ofText text = .ok d)
    (h : (ofText config text).2 = .ok a) :
    a.sources.map Skeleton.SourceFile.className = (d.readInto {}).model.names := by
  obtain ⟨ss, hss, hsources⟩ := exists_sources_of_ofText hd h
  rw [hsources, List.map_map]
  exact Skeleton.map_of_sources (fun _ _ => rfl) hss

/-- A file of a class source is named after the class. -/
theorem fileName_of_mem_sources {f : Skeleton.SourceFile} (h : (ofText config text).2 = .ok a)
    (hf : f ∈ a.sources) : f.fileName = f.className ++ ".java" := by
  obtain ⟨d, hd, -⟩ := exists_of_ofText h
  obtain ⟨ss, -, hsources⟩ := exists_sources_of_ofText hd h
  rw [hsources] at hf
  obtain ⟨s, -, rfl⟩ := List.mem_map.mp hf
  rfl

/-- The files of a text have different names. -/
theorem nodup_fileNames (h : (ofText config text).2 = .ok a) (schemaName : String) :
    (a.fileNames schemaName).Nodup := by
  obtain ⟨d, hd, -⟩ := exists_of_ofText h
  have hwell := Model.wellFormed_empty.readInto d
  have hsources : a.sources.map Skeleton.SourceFile.fileName =
      (d.readInto {}).model.names.map (· ++ ".java") := by
    rw [← map_className_sources hd h, List.map_map]
    exact List.map_congr_left fun f hf => fileName_of_mem_sources h hf
  rw [fileNames, hsources, ← List.concat_eq_append]
  refine (hwell.names_nodup.map fun s t hst => (String.append_left_inj _).mp hst).concat ?_
  intro hmem
  obtain ⟨name, -, hname⟩ := List.mem_map.mp hmem
  exact append_java_ne_append_sql _ _ hname

/-! ## Where files go -/

theorem isEntry_source_iff (h : (ofText config text).2 = .ok a) (directory : String) :
    ∀ f ∈ a.sources, Path.IsEntry directory f.fileName (Path.join directory f.fileName) ↔
      '/' ∉ f.className.toList := by
  intro f hf
  rw [fileName_of_mem_sources h hf, Path.isEntry_join_iff (append_ne_empty (by decide)),
    slash_mem_append_iff (by decide)]

/-- Where no class name holds a slash, every file is an entry of the directory. -/
theorem exists_isEntry_of_slashless (h : (ofText config text).2 = .ok a) (directory : String)
    (hschema : '/' ∉ schemaName.toList) (hclasses : ∀ f ∈ a.sources, '/' ∉ f.className.toList) :
    ∀ name ∈ a.fileNames schemaName,
      Path.IsEntry directory name (Path.join directory name) ∧ Files.IsName name := by
  intro name hname
  rcases List.mem_append.mp hname with hname | hname
  · obtain ⟨f, hf, rfl⟩ := List.mem_map.mp hname
    refine ⟨(isEntry_source_iff h directory f hf).mpr (hclasses f hf), ?_⟩
    rw [fileName_of_mem_sources h hf]
    exact isName_append (by decide)
  · rw [List.mem_singleton.mp hname, schemaFileName]
    refine ⟨(Path.isEntry_join_iff (append_ne_empty (by decide)) directory).mpr ?_,
      isName_append (by decide)⟩
    rw [slash_mem_append_iff (by decide)]
    exact hschema

/-- Different entries of a directory have different steps. -/
theorem nodup_steps_of_isEntry {names : List String} (hnd : names.Nodup)
    (h : ∀ name ∈ names, Path.IsEntry directory name (Path.join directory name)) :
    ((names.map (Path.join directory)).map Path.steps).Nodup := by
  have hsteps : (names.map (Path.join directory)).map Path.steps =
      names.map fun name => Path.steps directory ++ [name] := by
    rw [List.map_map]
    exact List.map_congr_left fun name hname => (h name hname).steps_eq
  rw [hsteps]
  refine hnd.map fun s t hst => ?_
  exact List.singleton_inj.mp (List.append_cancel_left hst)

/-- Artifacts are written after their directory is made. -/
theorem write_eq_ok {s s' : Sandbox} {paths : List String}
    (h : (a.write directory schemaName : SandboxM _) s = (.ok paths, s')) :
    ∃ s₁, (createDirectories directory : SandboxM _) s = (.ok (), s₁) ∧
      (writeFiles (a.files directory schemaName) : SandboxM _) s₁ = (.ok (), s') ∧
      (a.files directory schemaName).map Prod.fst = paths := by
  rw [write] at h
  simp only [bind, StateT.bind] at h
  cases hmade : (createDirectories directory : SandboxM _) s with
  | mk made s₁ =>
    rw [hmade] at h
    cases made with
    | error e => exact absurd (Prod.mk.inj h).1 (by simp)
    | ok u =>
      simp only at h
      cases hwritten : (writeFiles (a.files directory schemaName) : SandboxM _) s₁ with
      | mk written s₂ =>
        simp only [StateT.bind, bind, hwritten] at h
        cases written with
        | error e => exact absurd (Prod.mk.inj h).1 (by simp)
        | ok u =>
          obtain ⟨hpaths, rfl⟩ := Prod.mk.inj h
          exact ⟨s₁, rfl, hwritten, Except.ok.inj hpaths⟩

/-- The file of a class source is an entry of the directory, under its own name, if and only if the
class name holds no slash. If that holds of all classes, and of the schema name, the files that are
written have different paths. After the directory is made, nothing changes but entries of it, and in
the end each file holds what was written to it. -/
theorem write_entries (h : (ofText config text).2 = .ok a) (directory : String)
    (hschema : '/' ∉ schemaName.toList) :
    (∀ f ∈ a.sources, Path.IsEntry directory f.fileName (Path.join directory f.fileName) ↔
      '/' ∉ f.className.toList) ∧
    ((∀ f ∈ a.sources, '/' ∉ f.className.toList) →
      ((a.files directory schemaName).map fun f => Path.steps f.1).Nodup ∧
      ∀ (s s' : Sandbox) (paths : List String),
        (a.write directory schemaName : SandboxM _) s = (.ok paths, s') →
        ∃ s₁ p, (createDirectories directory : SandboxM _) s = (.ok (), s₁) ∧
          s₁.files.Holds directory p ∧ (a.files directory schemaName).map Prod.fst = paths ∧
          (∀ q, s'.files.content? q ≠ s₁.files.content? q → ∃ name, q = p ++ [name]) ∧
          ∀ f ∈ a.files directory schemaName, s'.files.read f.1 = .ok f.2.toUTF8.toList) := by
  refine ⟨isEntry_source_iff h directory, fun hclasses => ?_⟩
  have hentries := exists_isEntry_of_slashless h directory hschema hclasses
  have hsteps : ((a.files directory schemaName).map fun f => Path.steps f.1).Nodup := by
    have hnd := nodup_steps_of_isEntry (nodup_fileNames h schemaName)
      fun name hname => (hentries name hname).1
    rw [← map_fst_files, List.map_map] at hnd
    exact hnd
  refine ⟨hsteps, fun s s' paths hwrite => ?_⟩
  obtain ⟨s₁, hmade, hwritten, hpaths⟩ := write_eq_ok hwrite
  have hfiles : ∀ f ∈ a.files directory schemaName,
      ∃ name, Path.IsEntry directory name f.1 ∧ Files.IsName name := by
    intro f hf
    have hpath := List.mem_map_of_mem (f := Prod.fst) hf
    rw [map_fst_files] at hpath
    obtain ⟨name, hname, hjoin⟩ := List.mem_map.mp hpath
    exact ⟨name, hjoin ▸ hentries name hname⟩
  obtain ⟨p, hp⟩ := exists_holds_of_writeFiles (by simp [files]) hfiles hwritten
  obtain ⟨-, hchanged, hread⟩ := writeFiles_entries hfiles hsteps hwritten
  refine ⟨s₁, p, hmade, hp, hpaths, fun q hq => ?_, hread⟩
  obtain ⟨f, -, p', name, hp', -, rfl⟩ := hchanged q hq
  exact ⟨name, by rw [hp'.unique hp]⟩

/-- A sandbox with an empty working directory. -/
def meadow : Sandbox where
  files := { entries := [(["w"], .directory)], workingDirectory := ["w"] }

/-- The paths that the artifacts of a description are written to on a meadow, and the places that are
there afterwards. -/
def onMeadow (d : Description) : Option (List String × List Place) :=
  (ofReading {} (d.readInto {})).2.toOption.bind fun a =>
    let written := (a.write "out" "hill" : SandboxM _) meadow
    written.1.toOption.map fun paths => (paths, written.2.files.entries.map Prod.fst)

theorem exists_of_onMeadow {d : Description} {paths : List String} {places : List Place}
    (hd : Description.ofText text = .ok d) (h : onMeadow d = some (paths, places)) :
    ∃ a s', (ofText {} text).2 = .ok a ∧
      (a.write "out" "hill" : SandboxM _) meadow = (.ok paths, s') ∧
      s'.files.entries.map Prod.fst = places := by
  have hmade : (ofText {} text).2 = (ofReading {} (d.readInto {})).2 := by
    rw [ofText, Model.readText_of_ofText hd]
  rw [hmade]
  rw [onMeadow] at h
  cases ha : (ofReading {} (d.readInto {})).2 with
  | error f =>
    rw [ha] at h
    exact absurd h (by simp [Except.toOption])
  | ok a =>
    rw [ha] at h
    simp only [Except.toOption, Option.bind_some] at h
    cases hwritten : (a.write "out" "hill" : SandboxM _) meadow with
    | mk result s' =>
      rw [hwritten] at h
      cases result with
      | error f => exact absurd h (by simp)
      | ok paths' =>
        obtain ⟨rfl, rfl⟩ := Prod.mk.inj (Option.some.inj h)
        exact ⟨a, s', rfl, hwritten, rfl⟩

/-- A diagram of three goats, the names of two of which hold slashes. -/
def climbers : Description where
  nodes := [{ id := 1, name := "Goat" }, { id := 2, name := "./Goat" }, { id := 3, name := "../Goat" }]

/-- The climbers as a text. -/
def climbersText : String :=
  "\x7b\"nodes\":[\x7b\"id\":1,\"name\":\"Goat\"\x7d,
    \x7b\"id\":2,\"name\":\"./Goat\"\x7d,\x7b\"id\":3,\"name\":\"../Goat\"\x7d]\x7d"

theorem ofText_climbersText : Description.ofText climbersText = .ok climbers :=
  Description.ofText_ofList (by decide +kernel)

/-- Of the climbers, two go to one place, and one goes out of the directory. -/
theorem write_climbers :
    ∃ a s', (ofText {} climbersText).2 = .ok a ∧
      (a.write "out" "hill" : SandboxM _) meadow =
        (.ok ["out/Goat.java", "out/./Goat.java", "out/../Goat.java", "out/hill.sql"], s') ∧
      s'.files.entries.map Prod.fst =
        [["w"], ["w", "out"], ["w", "out", "Goat.java"], ["w", "Goat.java"],
          ["w", "out", "hill.sql"]] :=
  exists_of_onMeadow ofText_climbersText (by decide +kernel)

/-- A diagram of a goat and its kid. -/
def herd : Description where
  nodes := [{ id := 1, name := "Goat" }, { id := 2, name := "Kid" }]

/-- The herd as a text. -/
def herdText : String :=
  "\x7b\"nodes\":[\x7b\"id\":1,\"name\":\"Goat\"\x7d,\x7b\"id\":2,\"name\":\"Kid\"\x7d]\x7d"

theorem ofText_herdText : Description.ofText herdText = .ok herd :=
  Description.ofText_ofList (by decide +kernel)

/-- The herd stays in the directory, each in its own place. -/
theorem write_entries_herd :
    ∃ a s', (ofText {} herdText).2 = .ok a ∧
      (a.write "out" "hill" : SandboxM _) meadow =
        (.ok ["out/Goat.java", "out/Kid.java", "out/hill.sql"], s') ∧
      (∀ f ∈ a.sources, Path.IsEntry "out" f.fileName (Path.join "out" f.fileName)) ∧
      ∀ f ∈ a.files "out" "hill", s'.files.read f.1 = .ok f.2.toUTF8.toList := by
  have hmeadow : onMeadow herd = some (["out/Goat.java", "out/Kid.java", "out/hill.sql"],
      [["w"], ["w", "out"], ["w", "out", "Goat.java"], ["w", "out", "Kid.java"],
        ["w", "out", "hill.sql"]]) := by decide +kernel
  obtain ⟨a, s', ha, hwrite, -⟩ := exists_of_onMeadow ofText_herdText hmeadow
  have hclasses : ∀ f ∈ a.sources, '/' ∉ f.className.toList := by
    have hfree : ∀ name ∈ (herd.readInto {}).model.names, '/' ∉ name.toList := by decide +kernel
    have hnames := map_className_sources ofText_herdText ha
    exact fun f hf => hfree _ (hnames ▸ List.mem_map_of_mem hf)
  have hschema : '/' ∉ "hill".toList := by decide
  obtain ⟨hsources, hall⟩ := write_entries ha "out" hschema
  obtain ⟨-, hwritten⟩ := hall hclasses
  obtain ⟨s₁, p, -, -, -, -, hread⟩ := hwritten meadow s' _ hwrite
  exact ⟨a, s', ha, hwrite, fun f hf => (hsources f hf).mpr (hclasses f hf), hread⟩

end Blueprint.Artifacts

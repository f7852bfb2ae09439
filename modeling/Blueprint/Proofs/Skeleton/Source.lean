import Blueprint.Proofs.Model.Operations
import Blueprint.Skeleton.Source
import Mathlib.Data.List.Forall2
import Mathlib.Data.List.Perm.Basic

/-!
# When classes have sources

A class has a source unless it extends a class that the model does not have. The sources of a model
are those of its classes, one for each, in order.
-/

namespace Blueprint.Skeleton

variable {m : Model} {c : ClassDecl} {config : Config}

/-- A class extends nothing, or a class of the model. -/
def SuperclassKnown (m : Model) (c : ClassDecl) : Prop :=
  ∀ name, c.superclass = some name → name ∈ m.names

/-- A constructor knows what to forward if and only if the class that is extended is known. -/
theorem forwarded_isOk_iff :
    (∃ inherited, Constructor.forwarded m c = .ok inherited) ↔ SuperclassKnown m c := by
  cases hsuper : c.superclass with
  | none => simp [Constructor.forwarded, SuperclassKnown, hsuper]
  | some name =>
    have hfind : m.superclassOf c = m.class? name := by rw [Model.superclassOf, hsuper]; rfl
    have hknown : SuperclassKnown m c ↔ name ∈ m.names := by simp [SuperclassKnown, hsuper]
    rw [hknown, ← Model.class?_isSome_iff]
    cases hclass : m.class? name with
    | none => simp [Constructor.forwarded, hsuper, hfind, hclass]
    | some s => simp [Constructor.forwarded, hsuper, hfind, hclass]

/-- A class whose superclass is known has a source, which is named after it. -/
theorem fileOfClass_of_superclassKnown (config : Config) (h : SuperclassKnown m c) :
    ∃ f, (fileOfClass config m c).2 = .ok f ∧ f.fileName = c.name ++ ".java" := by
  obtain ⟨inherited, hinherited⟩ := forwarded_isOk_iff.mpr h
  have hcreation : Constructor.ofClass m c (fields m c) =
      .ok (Constructor.build c (fields m c) inherited) := by
    rw [Constructor.ofClass, hinherited]
    rfl
  have hsource : (Source.ofClass m c).2 =
      .ok (Source.build c (fields m c) (Constructor.build c (fields m c) inherited)) := by
    simp only [Source.ofClass, hcreation]
    rfl
  rw [fileOfClass]
  split
  · next ds f heq =>
    rw [heq] at hsource
    exact absurd hsource (by simp)
  · next ds s heq =>
    rw [heq] at hsource
    refine ⟨_, rfl, ?_⟩
    rw [Except.ok.inj hsource]
    rfl

/-- The file of a class holds its source. -/
theorem fileOfClass_eq_ok {file : SourceFile} (h : (fileOfClass config m c).2 = .ok file) :
    ∃ s, (Source.ofClass m c).2 = .ok s ∧ s.file config = file := by
  rw [fileOfClass] at h
  split at h
  · exact absurd h (by simp)
  · next ds s heq =>
    rw [heq]
    exact ⟨s, rfl, Except.ok.inj h⟩

/-- The source of a class has the constructor of the class, and is built with it. -/
theorem Source.exists_constructor_of_ofClass {s : Source} (h : (Source.ofClass m c).2 = .ok s) :
    ∃ creation, Constructor.ofClass m c (Skeleton.fields m c) = .ok creation ∧
      Source.build c (Skeleton.fields m c) creation = s := by
  rw [Source.ofClass] at h
  cases hcreation : Constructor.ofClass m c (Skeleton.fields m c) with
  | error f =>
    rw [hcreation] at h
    exact absurd h (by simp [Except.map])
  | ok creation =>
    rw [hcreation] at h
    exact ⟨creation, rfl, Except.ok.inj h⟩

/-- The source of a class declares what the class extends, its attributes, and a field for every
association. -/
theorem Source.eq_build_of_ofClass {s : Source} (h : (Source.ofClass m c).2 = .ok s) :
    ∃ creation, Source.build c (Skeleton.fields m c) creation = s := by
  obtain ⟨creation, -, hbuild⟩ := Source.exists_constructor_of_ofClass h
  exact ⟨creation, hbuild⟩

/-- Sources of classes are made one after another, one for each. -/
theorem filesOfClasses_eq_ok_iff (cs : List ClassDecl) (fs : List SourceFile) :
    (filesOfClasses config m cs).2 = .ok fs ↔
      List.Forall₂ (fun c f => (fileOfClass config m c).2 = .ok f) cs fs := by
  induction cs generalizing fs with
  | nil => cases fs <;> simp [filesOfClasses]
  | cons c cs ih =>
    rw [filesOfClasses]
    cases hfile : fileOfClass config m c with
    | mk j result =>
      cases result with
      | error f => cases fs <;> simp [hfile]
      | ok file =>
        cases hrest : (filesOfClasses config m cs).2 with
        | error f => cases fs <;> simp [hfile, hrest, ← ih, Except.map]
        | ok files => cases fs <;> simp [hfile, hrest, ← ih, Except.map]

/-- The files of classes hold their sources. -/
theorem exists_sources_of_files {fs : List SourceFile} (h : (files config m).2 = .ok fs) :
    ∃ ss, List.Forall₂ (fun c s => (Source.ofClass m c).2 = .ok s) m.classes ss ∧
      ss.map (Source.file config) = fs := by
  have hall := (filesOfClasses_eq_ok_iff m.classes fs).mp h
  clear h
  generalize m.classes = cs at hall
  induction hall with
  | nil => exact ⟨[], .nil, rfl⟩
  | cons hfile _ ih =>
    obtain ⟨s, hs, rfl⟩ := fileOfClass_eq_ok hfile
    obtain ⟨ss, hss, rfl⟩ := ih
    exact ⟨s :: ss, .cons hs hss, rfl⟩

/-- What sources take over from their classes, they have as the classes have it. -/
theorem map_of_sources {α : Type} {ss : List Source} {f : Source → α} {g : ClassDecl → α}
    (hsame : ∀ c creation, f (Source.build c (fields m c) creation) = g c)
    (h : List.Forall₂ (fun c s => (Source.ofClass m c).2 = .ok s) m.classes ss) :
    ss.map f = m.classes.map g := by
  generalize m.classes = cs at h
  induction h with
  | nil => rfl
  | cons hs _ ih =>
    obtain ⟨creation, rfl⟩ := Source.eq_build_of_ofClass hs
    rw [List.map_cons, List.map_cons, hsame, ih]

theorem exists_filesOfClasses (config : Config) {cs : List ClassDecl}
    (h : ∀ c ∈ cs, SuperclassKnown m c) :
    ∃ fs, List.Forall₂ (fun c f => (fileOfClass config m c).2 = .ok f ∧
      f.fileName = c.name ++ ".java") cs fs := by
  induction cs with
  | nil => exact ⟨[], List.Forall₂.nil⟩
  | cons c cs ih =>
    obtain ⟨f, hf⟩ := fileOfClass_of_superclassKnown config (h c List.mem_cons_self)
    obtain ⟨fs, hfs⟩ := ih fun d hd => h d (List.mem_cons_of_mem _ hd)
    exact ⟨f :: fs, List.Forall₂.cons hf hfs⟩

/-- Where all superclasses are known, every class has its source. -/
theorem files_of_superclassKnown (config : Config) (h : ∀ c ∈ m.classes, SuperclassKnown m c) :
    ∃ fs, (files config m).2 = .ok fs ∧
      List.Forall₂ (fun c f => (fileOfClass config m c).2 = .ok f ∧
        f.fileName = c.name ++ ".java") m.classes fs := by
  obtain ⟨fs, hfs⟩ := exists_filesOfClasses config h
  exact ⟨fs, (filesOfClasses_eq_ok_iff m.classes fs).mpr (hfs.imp fun _ _ hf => hf.1), hfs⟩

/-! ## What sources note -/

theorem diagnostics_fileOfClass (config : Config) (m : Model) (c : ClassDecl) :
    Journal.diagnostics (fileOfClass config m c).1 = fieldsRenamed c.name (fields m c) := by
  rw [fileOfClass]
  split
  · next ds f heq =>
    have hnotes : fieldsRenamed c.name (fields m c) = ds := congrArg Prod.fst heq
    rw [hnotes, Journal.diagnostics_ofDiagnostics]
  · next ds s heq =>
    have hnotes : fieldsRenamed c.name (fields m c) = ds := congrArg Prod.fst heq
    rw [hnotes, Journal.diagnostics_append, Journal.diagnostics_ofDiagnostics]
    exact List.append_nil _

/-- A class that has no source ends the sources. Its notes stay. -/
theorem filesOfClasses_cons_of_error {f : Failure} (h : (fileOfClass config m c).2 = .error f)
    (cs : List ClassDecl) :
    let made := filesOfClasses config m (c :: cs)
    made.2 = .error f ∧ Journal.diagnostics made.1 = fieldsRenamed c.name (fields m c) := by
  have hnotes := diagnostics_fileOfClass config m c
  rw [filesOfClasses]
  cases hmade : fileOfClass config m c with
  | mk j result =>
    rw [hmade] at h hnotes
    obtain rfl : result = .error f := h
    exact ⟨rfl, hnotes⟩

/-- A class that has a source goes before the others, and so do its notes. -/
theorem filesOfClasses_cons_of_ok {file : SourceFile} (h : (fileOfClass config m c).2 = .ok file)
    (cs : List ClassDecl) :
    let rest := filesOfClasses config m cs
    let made := filesOfClasses config m (c :: cs)
    made.2 = rest.2.map (file :: ·) ∧ Journal.diagnostics made.1 =
      fieldsRenamed c.name (fields m c) ++ Journal.diagnostics rest.1 := by
  have hnotes := diagnostics_fileOfClass config m c
  intro rest
  rw [filesOfClasses]
  cases hmade : fileOfClass config m c with
  | mk j result =>
    rw [hmade] at h hnotes
    obtain rfl : result = .ok file := h
    refine ⟨rfl, ?_⟩
    rw [Journal.diagnostics_append]
    exact congrArg (· ++ Journal.diagnostics rest.1) hnotes

theorem diagnostics_filesOfClasses {cs : List ClassDecl} {fs : List SourceFile}
    (h : (filesOfClasses config m cs).2 = .ok fs) :
    Journal.diagnostics (filesOfClasses config m cs).1 =
      cs.flatMap fun c => fieldsRenamed c.name (fields m c) := by
  induction cs generalizing fs with
  | nil => rfl
  | cons c cs ih =>
    obtain ⟨file, files, hfile, hrest, -⟩ :=
      List.forall₂_cons_left_iff.mp ((filesOfClasses_eq_ok_iff (c :: cs) fs).mp h)
    rw [(filesOfClasses_cons_of_ok hfile cs).2, List.flatMap_cons,
      ih ((filesOfClasses_eq_ok_iff cs files).mpr hrest)]

/-- The notes on the sources of a model are those on its classes, in their order. -/
theorem diagnostics_files {fs : List SourceFile} (h : (files config m).2 = .ok fs) :
    Journal.diagnostics (files config m).1 =
      m.classes.flatMap fun c => fieldsRenamed c.name (fields m c) := by
  have hmade : (filesOfClasses config m m.classes).2 = .ok fs := h
  rw [files, Journal.diagnostics_within, Journal.diagnostics_append,
    diagnostics_filesOfClasses hmade, hmade]
  exact List.append_nil _

/-! ## What a source depends on -/

variable {m' : Model}

/-- Classes with the same name and attributes, which the same associations leave, have the same
fields. -/
theorem fields_eq_of_same {d d' : ClassDecl} (hattributes : d'.attributes = d.attributes)
    (hdeparting : m'.departing d'.name = m.departing d.name) : fields m' d' = fields m d := by
  rw [fields, fields, hattributes, hdeparting]

theorem fields_congr (h : m'.departing = m.departing) : fields m' = fields m := by
  funext c
  exact fields_eq_of_same rfl (congrFun h c.name)

/-- The source of a class depends on its fields, and on what it hands on. -/
theorem fileOfClass_of_forwarded_eq (hfields : fields m' c = fields m c)
    (hforwarded : Constructor.forwarded m' c = Constructor.forwarded m c) :
    fileOfClass config m' c = fileOfClass config m c := by
  rw [fileOfClass, fileOfClass, Source.ofClass, Source.ofClass, hfields, Constructor.ofClass,
    Constructor.ofClass, hforwarded]

/-- The source of a class depends on the fields of classes, and on the class that it extends. -/
theorem fileOfClass_of_fields_eq (hfields : fields m' = fields m)
    (hsuper : m'.superclassOf = m.superclassOf) : fileOfClass config m' = fileOfClass config m := by
  funext c
  have hforwarded : Constructor.forwarded m' c = Constructor.forwarded m c := by
    rw [Constructor.forwarded, Constructor.forwarded, hsuper, hfields]
  exact fileOfClass_of_forwarded_eq (congrFun hfields c) hforwarded

theorem fileOfClass_congr (hdeparting : m'.departing = m.departing)
    (hsuper : m'.superclassOf = m.superclassOf) : fileOfClass config m' = fileOfClass config m :=
  fileOfClass_of_fields_eq (fields_congr hdeparting) hsuper

/-- Models with the same classes whose classes have the same sources have the same sources. -/
theorem files_congr (hclasses : m'.classes = m.classes)
    (hsame : fileOfClass config m' = fileOfClass config m) : files config m' = files config m := by
  have hmade (cs : List ClassDecl) : filesOfClasses config m' cs = filesOfClasses config m cs := by
    induction cs with
    | nil => rfl
    | cons c cs ih => rw [filesOfClasses, filesOfClasses, hsame, ih]
  rw [files, files, hclasses, hmade]

/-- Classes in another order have the same sources in another order. -/
theorem files_perm {fs : List SourceFile} (h : (files config m).2 = .ok fs)
    (hclasses : m'.classes.Perm m.classes) (hsame : fileOfClass config m' = fileOfClass config m) :
    ∃ fs', (files config m').2 = .ok fs' ∧ fs'.Perm fs := by
  have hall := (filesOfClasses_eq_ok_iff m.classes fs).mp h
  obtain ⟨fs', hall', hperm⟩ := List.perm_comp_forall₂ hclasses hall
  rw [← hsame] at hall'
  exact ⟨fs', (filesOfClasses_eq_ok_iff m'.classes fs').mpr hall', hperm⟩

end Blueprint.Skeleton

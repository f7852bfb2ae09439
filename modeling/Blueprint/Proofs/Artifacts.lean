import Blueprint.Artifacts
import Blueprint.Proofs.Model.Integrity
import Blueprint.Proofs.Skeleton.Layout

/-!
# Artifacts come from a reading

A run on a text does no more than to read it into a model and to make the artifacts of the model.
What was noted before does not change what is made, and nothing that a reading yields can make it
fail: the classes of the model extend classes of the model.
-/

namespace Blueprint

/-- A text that is read on its own: its model and the diagnostics, or why it has none. -/
def Model.ofText (text : String) : Except Failure (Model × List Diagnostic) :=
  match (Model.readText {} text).failure with
  | some f => .error f
  | none =>
    .ok ((Model.readText {} text).model, Journal.diagnostics (Model.readText {} text).journal)

/-- A text that holds a description that is read to its end has the model of the reading. -/
theorem Model.ofText_of_readInto {text : String} {d : Description}
    (hd : Description.ofText text = .ok d) (hread : (d.readInto {}).failure = none) :
    Model.ofText text =
      .ok ((d.readInto {}).model, Journal.diagnostics (d.readInto {}).journal) := by
  rw [ofText, readText_of_ofText hd, hread]

/-- A text that has a model holds a description that is read to its end. -/
theorem Model.exists_of_ofText {text : String} {m : Model} {ds : List Diagnostic}
    (h : ofText text = .ok (m, ds)) :
    ∃ d, Description.ofText text = .ok d ∧ (d.readInto {}).failure = none ∧
      (d.readInto {}).model = m ∧ Journal.diagnostics (d.readInto {}).journal = ds := by
  cases hfailure : (readText {} text).failure with
  | some f =>
    rw [ofText, hfailure] at h
    exact absurd h (by simp)
  | none =>
    obtain ⟨d, hd, hinto⟩ := exists_of_readText hfailure
    rw [hinto] at hfailure
    rw [ofText_of_readInto hd hfailure] at h
    obtain ⟨hm, hds⟩ := Prod.mk.inj (Except.ok.inj h)
    exact ⟨d, hd, hfailure, hm, hds⟩

namespace Artifacts

/-- Diagnostics from before are put in front, and change nothing else. -/
theorem ofModelAfter_eq (config : Config) (before : List Diagnostic) (m : Model) :
    (ofModelAfter config before m).2 =
      (ofModel config m).2.map fun a => { a with diagnostics := before ++ a.diagnostics } := by
  simp only [ofModel, ofModelAfter]
  cases (Skeleton.files config m).2 with
  | error f => rfl
  | ok fs => rfl

/-- A model has artifacts if its classes have sources. -/
theorem ofModelAfter_eq_ok_iff {config : Config} {before : List Diagnostic} {m : Model}
    {a : Artifacts} :
    (ofModelAfter config before m).2 = .ok a ↔
      (Skeleton.files config m).2 = .ok a.sources ∧
        a.schema = Schema.render config (Schema.script m []).statements ∧
        a.diagnostics = before ++ (Journal.diagnostics (Schema.script m []).journal ++
          Journal.diagnostics (Skeleton.files config m).1) := by
  obtain ⟨schema, sources, diagnostics⟩ := a
  simp only [ofModelAfter]
  cases (Skeleton.files config m).2 with
  | error f => simp
  | ok files =>
    simp only [Except.ok.injEq, Artifacts.mk.injEq, Journal.diagnostics_append]
    constructor
    · rintro ⟨rfl, rfl, rfl⟩
      exact ⟨rfl, rfl, rfl⟩
    · rintro ⟨rfl, rfl, rfl⟩
      exact ⟨rfl, rfl, rfl⟩

/-- A reading has artifacts if it did not end early and its model has some. -/
theorem ofReading_eq_ok_iff {config : Config} {r : Reading} {a : Artifacts} :
    (ofReading config r).2 = .ok a ↔ r.failure = none ∧
      (ofModelAfter config (Journal.diagnostics r.journal) r.model).2 = .ok a := by
  rw [ofReading]
  cases r.failure with
  | some f => simp
  | none => simp

/-- A text that has artifacts holds a description that is read to its end, and its artifacts are
those of the model. -/
theorem exists_of_ofText {config : Config} {text : String} {a : Artifacts}
    (h : (ofText config text).2 = .ok a) :
    ∃ d, Description.ofText text = .ok d ∧ (d.readInto {}).failure = none ∧
      Model.ofText text =
        .ok ((d.readInto {}).model, Journal.diagnostics (d.readInto {}).journal) ∧
      (ofModelAfter config (Journal.diagnostics (d.readInto {}).journal)
        (d.readInto {}).model).2 = .ok a := by
  obtain ⟨hread, hmade⟩ := ofReading_eq_ok_iff.mp h
  obtain ⟨d, hd, hinto⟩ := Model.exists_of_readText hread
  rw [hinto] at hread hmade
  exact ⟨d, hd, hread, Model.ofText_of_readInto hd hread, hmade⟩

/-- The sources of a text are those of the classes that are read from it. -/
theorem exists_sources_of_ofText {config : Config} {text : String} {a : Artifacts} {d : Description}
    (hd : Description.ofText text = .ok d) (h : (ofText config text).2 = .ok a) :
    ∃ ss, List.Forall₂ (fun c s => (Skeleton.Source.ofClass (d.readInto {}).model c).2 = .ok s)
        (d.readInto {}).model.classes ss ∧
      a.sources = ss.map (Skeleton.Source.file config) := by
  obtain ⟨d', hd', -, -, hmade⟩ := exists_of_ofText h
  obtain rfl : d = d' := Except.ok.inj (hd.symm.trans hd')
  obtain ⟨hfiles, -⟩ := ofModelAfter_eq_ok_iff.mp hmade
  obtain ⟨ss, hss, hsources⟩ := Skeleton.exists_sources_of_files hfiles
  exact ⟨ss, hss, hsources.symm⟩

/-- The sources of a text have pages, which show the classes that are read from it. -/
theorem exists_pages_of_ofText {config : Config} {text : String} {a : Artifacts} {d : Description}
    (hd : Description.ofText text = .ok d) (h : (ofText config text).2 = .ok a) :
    ∃ pages : List (Skeleton.Page config), pages.map Skeleton.Page.file = a.sources ∧
      List.Forall₂ (fun c p => p.Shows (d.readInto {}).model c) (d.readInto {}).model.classes
        pages := by
  obtain ⟨d', hd', -, -, hmade⟩ := exists_of_ofText h
  obtain rfl : d = d' := Except.ok.inj (hd.symm.trans hd')
  exact Skeleton.exists_pages_of_files (ofModelAfter_eq_ok_iff.mp hmade).1

/-- A text has the artifacts of its model, after the diagnostics of its reading. -/
theorem ofText_eq (config : Config) (text : String) :
    (ofText config text).2 = match Model.ofText text with
      | .error f => .error f
      | .ok (m, ds) => (ofModel config m).2.map fun a =>
          { a with diagnostics := ds ++ a.diagnostics } := by
  simp only [ofText, ofReading, Model.ofText]
  cases (Model.readText {} text).failure with
  | some f => rfl
  | none => exact ofModelAfter_eq config _ _

/-- The artifacts of a model whose superclasses are known hold a source for every class. -/
theorem ofModel_of_superclassKnown (config : Config) {m : Model}
    (h : ∀ c ∈ m.classes, Skeleton.SuperclassKnown m c) :
    ∃ b, (ofModel config m).2 = .ok b ∧
      List.Forall₂ (fun c f => (Skeleton.fileOfClass config m c).2 = .ok f ∧
        f.fileName = c.name ++ ".java") m.classes b.sources := by
  obtain ⟨fs, hfs, hall⟩ := Skeleton.files_of_superclassKnown config h
  simp only [ofModel, ofModelAfter, hfs]
  exact ⟨_, rfl, hall⟩

/-- What a text that is read is made into. -/
theorem ofText_of_read (config : Config) {text : String} {m : Model} {ds : List Diagnostic}
    (h : Model.ofText text = .ok (m, ds)) :
    ∃ b, (ofModel config m).2 = .ok b ∧
      (ofText config text).2 = .ok { b with diagnostics := ds ++ b.diagnostics } ∧
      List.Forall₂ (fun c f => (Skeleton.fileOfClass config m c).2 = .ok f ∧
        f.fileName = c.name ++ ".java") m.classes b.sources := by
  have hm : m = (Model.readText {} text).model := by
    rw [Model.ofText] at h
    split at h
    · exact absurd h (by simp)
    · exact (congrArg Prod.fst (Except.ok.inj h)).symm
  have hknown : ∀ c ∈ m.classes, Skeleton.SuperclassKnown m c := by
    rw [hm]
    exact Model.superclass_mem_names_readText text
  obtain ⟨b, hb, hall⟩ := ofModel_of_superclassKnown config hknown
  refine ⟨b, hb, ?_, hall⟩
  rw [ofText_eq, h]
  simp only [hb]
  rfl

/-- A text that holds a description that is read to its end has artifacts. -/
theorem exists_ofText_of_readInto (config : Config) {text : String} {d : Description}
    (hd : Description.ofText text = .ok d) (hread : (d.readInto {}).failure = none) :
    ∃ a, (ofText config text).2 = .ok a := by
  obtain ⟨b, -, ha, -⟩ := ofText_of_read config (Model.ofText_of_readInto hd hread)
  exact ⟨_, ha⟩

/-- The artifacts of a description fail where its reading does, for the same reason, and nowhere
else. -/
theorem ofReading_readInto_eq_error_iff {config : Config} {d : Description} {f : Failure} :
    (ofReading config (d.readInto {})).2 = .error f ↔ (d.readInto {}).failure = some f := by
  rw [ofReading]
  cases hread : (d.readInto {}).failure with
  | some g => simp
  | none =>
    obtain ⟨b, hb, -⟩ := ofModel_of_superclassKnown config (Model.superclass_mem_names_readInto d)
    simp only [ofModelAfter_eq, hb]
    simp [Except.map]

/-- Making the artifacts of a text is the same as reading it first and making those of the model. It
fails where the reading does, for the same reason, and nowhere else; and each class has its own
source, in a file that is named after it. -/
theorem ofText_iff_read (config : Config) (text : String) :
    (∀ f, (ofText config text).2 = .error f ↔ Model.ofText text = .error f) ∧
    ∀ m ds, Model.ofText text = .ok (m, ds) →
      ∃ a b, (ofText config text).2 = .ok a ∧ (ofModel config m).2 = .ok b ∧
        a.schema = b.schema ∧ a.sources = b.sources ∧ a.diagnostics = ds ++ b.diagnostics ∧
        List.Forall₂ (fun c f => (Skeleton.fileOfClass config m c).2 = .ok f ∧
          f.fileName = c.name ++ ".java") m.classes a.sources := by
  constructor
  · intro f
    cases hread : Model.ofText text with
    | error f' => simp [ofText_eq, hread]
    | ok result =>
      obtain ⟨b, -, hmade, -⟩ := ofText_of_read config hread
      simp [hmade]
  · intro m ds hread
    obtain ⟨b, hb, hmade, hall⟩ := ofText_of_read config hread
    exact ⟨_, b, hmade, hb, rfl, rfl, rfl, hall⟩

/-- A diagram of pets and dogs, which are pets. -/
def pets : String :=
  "\x7b\"nodes\": [\x7b\"id\": 1, \"name\": \"Pet\"\x7d, \x7b\"id\": 2, \"name\": \"Dog\"\x7d], " ++
    "\"edges\": [\x7b\"start\": 2, \"end\": 1, \"type\": \"GeneralizationEdge\"\x7d]\x7d"

/-- Pets and dogs have a source each. -/
theorem ofText_iff_read_pets :
    ∃ m ds a b, Model.ofText pets = .ok (m, ds) ∧ m.classes.map ClassDecl.superclass =
      [none, some "Pet"] ∧ (ofText {} pets).2 = .ok a ∧ (ofModel {} m).2 = .ok b ∧
      a.sources = b.sources ∧ a.sources.length = 2 := by
  obtain ⟨hok, hclasses⟩ : (Model.readText {} pets).failure = none ∧
      (Model.readText {} pets).model.classes.map ClassDecl.superclass = [none, some "Pet"] := by
    decide +kernel
  have hread : Model.ofText pets = .ok ((Model.readText {} pets).model,
      Journal.diagnostics (Model.readText {} pets).journal) := by rw [Model.ofText, hok]
  obtain ⟨a, b, ha, hb, -, hsources, -, hall⟩ := (ofText_iff_read {} pets).2 _ _ hread
  refine ⟨_, _, a, b, hread, hclasses, ha, hb, hsources, ?_⟩
  rw [← hall.length_eq, ← List.length_map ClassDecl.superclass, hclasses]
  rfl

end Artifacts

end Blueprint

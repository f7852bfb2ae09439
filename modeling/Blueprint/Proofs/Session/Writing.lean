import Blueprint.Proofs.Skeleton.Dangling
import Blueprint.Proofs.Skeleton.Surroundings
import Blueprint.Session

/-!
# Writing in a session

A session writes schemas and class sources of whatever its model has come to. A schema can always be
written. Sources can be written unless a class extends one that is missing, and the first such class
is what they end with. The tables and the diagnostics that a session keeps have no say in what is
written.
-/

namespace Blueprint.Session

open Skeleton

variable {s : Session}

/-! ## All sources -/

theorem step_writeSources_eq (s : Session) :
    s.step .writeSources =
      (s.note (files s.config s.model).1, replyOf .sources (files s.config s.model).2) := rfl

/-- The first dangling superclass is what the sources end with. -/
theorem step_writeSources_of_firstDangling {before : List ClassDecl} {c : ClassDecl} {name : String}
    (h : FirstDangling s.model before c name) :
    s.step .writeSources =
      ({ s with
          diagnostics := s.diagnostics ++
            (before ++ [c]).flatMap fun d => fieldsRenamed d.name (fields s.model d) },
        .failed (.unknownClass name)) := by
  obtain ⟨hmade, hnotes⟩ := h.files s.config
  rw [step_writeSources_eq, hmade, note, hnotes]
  rfl

/-- Where no superclass dangles, the sources do not depend on what else a session holds. -/
theorem step_writeSources_of_known (h : ∀ c ∈ s.model.classes, SuperclassKnown s.model c) :
    ∃ fs, (∀ t : Session, t.model = s.model → t.config = s.config →
        (t.step .writeSources).2 = .sources fs) ∧
      List.Forall₂ (fun c file => (fileOfClass s.config s.model c).2 = .ok file ∧
        file.fileName = c.name ++ ".java") s.model.classes fs := by
  obtain ⟨fs, hmade, hall⟩ := files_of_superclassKnown s.config h
  refine ⟨fs, fun t hmodel hconfig => ?_, hall⟩
  rw [step_writeSources_eq, hmodel, hconfig, hmade]
  rfl

/-- Whatever the model of a session is and whatever else it holds, its schema can be written. Its
class sources cannot if and only if some class extends a class that is missing. They then fail with
the missing class of the first such one, and the session has got the notes on the fields of the
classes up to this one, and is otherwise unchanged. If they can, there is one source for each class,
in their order, and any session with this model and these settings gets the same. -/
theorem step_writeSources (s : Session) :
    let made := s.step .writeSources
    (∃ text, (s.step .writeSchema).2 = .text text) ∧
      ((∃ f, made.2 = .failed f) ↔
        ∃ c ∈ s.model.classes, ∃ name, c.superclass = some name ∧ name ∉ s.model.names) ∧
      (∀ f, made.2 = .failed f → ∃ before c name, FirstDangling s.model before c name ∧
        f = .unknownClass name ∧
        made.1 =
          { s with
            diagnostics := s.diagnostics ++
              (before ++ [c]).flatMap fun d => fieldsRenamed d.name (fields s.model d) }) ∧
      ((∀ f, made.2 ≠ .failed f) → ∃ fs,
        (∀ t : Session, t.model = s.model → t.config = s.config →
          (t.step .writeSources).2 = .sources fs) ∧
        List.Forall₂ (fun c file => (fileOfClass s.config s.model c).2 = .ok file ∧
          file.fileName = c.name ++ ".java") s.model.classes fs) := by
  intro made
  have hschema : ∃ text, (s.step .writeSchema).2 = .text text := ⟨_, rfl⟩
  by_cases hknown : ∀ c ∈ s.model.classes, SuperclassKnown s.model c
  · obtain ⟨fs, hsources, hall⟩ := step_writeSources_of_known hknown
    have hfine : ∀ f, made.2 ≠ .failed f := by
      intro f hf
      have hmade : made.2 = .sources fs := hsources s rfl rfl
      exact absurd (hf.symm.trans hmade) (by simp)
    refine ⟨hschema, ⟨?_, ?_⟩, fun f hf => absurd hf (hfine f), fun _ => ⟨fs, hsources, hall⟩⟩
    · rintro ⟨f, hf⟩
      exact absurd hf (hfine f)
    · rintro ⟨c, hc, name, hsuper, hunknown⟩
      exact absurd (hknown c hc name hsuper) hunknown
  · obtain ⟨before, c, name, hfirst⟩ := exists_firstDangling hknown
    have hmade : made = _ := step_writeSources_of_firstDangling hfirst
    have hfailed : made.2 = .failed (.unknownClass name) := by rw [hmade]
    obtain ⟨after, hclasses⟩ := hfirst.classes_eq
    have hc : c ∈ s.model.classes := by simp [hclasses]
    refine ⟨hschema, ⟨fun _ => ?_, fun _ => ⟨_, hfailed⟩⟩, ?_, fun h => absurd hfailed (h _)⟩
    · exact ⟨c, hc, name, hfirst.superclass_eq, hfirst.unknown⟩
    · intro f hf
      have hname : f = .unknownClass name := Reply.failed.inj (hf.symm.trans hfailed)
      exact ⟨before, c, name, hfirst, hname, by rw [hmade]⟩

/-- A session that has made tables and noted something. The class that cats extended is not among
its classes any more, unless some `homes` are, and neither is that of another class named like
them. -/
def strayCats (homes : List ClassDecl) : Session where
  model :=
    { classes := [{ name := "Owner", attributes := [⟨"cat", "int", .priv⟩] },
        { name := "Cat", superclass := some "Pet" }, { name := "Lynx", superclass := some "Cat" },
        { name := "Cat", superclass := some "Wild" }] ++ homes
      associations := [{ kind := .aggregation, departure := "Owner", arrival := "Cat" },
        { kind := .other, departure := "Cat", arrival := "Cat" },
        { kind := .composition, departure := "Cat", arrival := "Cat" },
        { kind := .other, departure := "Lynx", arrival := "Wild" },
        { kind := .other, departure := "Lynx", arrival := "Wild" }] }
  tables := [{ name := "Cat", columns := ["ID"] }]
  diagnostics := [.info "open" none]

/-- The first cat ends the sources. The note on its own field is there, those on the lynx are not.
With a home for each cat there are six sources, with or without tables. -/
theorem step_writeSources_strayCats :
    (∃ before c, FirstDangling (strayCats []).model before c "Pet" ∧
      ((strayCats []).step .writeSources).2 = .failed (.unknownClass "Pet") ∧
      ((strayCats []).step .writeSources).1 =
        { strayCats [] with
          diagnostics := .info "open" none ::
            (before ++ [c]).flatMap fun d => fieldsRenamed d.name (fields (strayCats []).model d) }) ∧
      ((strayCats []).step .writeSources).1.diagnostics =
        [.info "open" none, .info "field cat renamed to cat2" (some { className := "Owner" }),
          .info "field cat renamed to cat2" (some { className := "Cat" })] ∧
      ∃ fs : List SourceFile, fs.length = 6 ∧
        let home := strayCats [{ name := "Wild" }, { name := "Pet" }]
        (home.step .writeSources).2 = .sources fs ∧
          (({ home with tables := [] } : Session).step .writeSources).2 = .sources fs := by
  obtain ⟨-, -, hfailed, -⟩ := step_writeSources (strayCats [])
  obtain ⟨-, hiff, -, hsources⟩ :=
    step_writeSources (strayCats [{ name := "Wild" }, { name := "Pet" }])
  have hpet : ((strayCats []).step .writeSources).2 = .failed (.unknownClass "Pet") := by
    decide +kernel
  obtain ⟨before, c, name, hfirst, hname, hlast⟩ := hfailed _ hpet
  obtain rfl : "Pet" = name := Failure.unknownClass.inj hname
  -- with the homes, no superclass dangles
  have hknown := mt hiff.mp (by decide)
  obtain ⟨fs, hsame, hall⟩ := hsources fun f hf => hknown ⟨f, hf⟩
  exact ⟨⟨before, c, hfirst, hpet, hlast⟩, by decide +kernel, fs, hall.length_eq.symm,
    hsame _ rfl rfl, hsame _ rfl rfl⟩

/-! ## One source -/

variable {m m' : Model} {c : ClassDecl} {config : Config}

theorem step_writeSource_of_class? {name : String} (h : s.model.class? name = some c) :
    s.step (.writeSource name) =
      (s.note (fileOfClass s.config s.model c).1,
        replyOf .source (fileOfClass s.config s.model c).2) := by
  rw [step, h]

/-- Two models that agree around a class have the same source for it, or fail alike, with the same
notes, and so have all sessions with one of these models, whatever else they hold. In particular,
models have the same source for a class that differ only in other classes than the one that it
extends, and in associations that leave neither of the two. -/
theorem source_frame (m m' : Model) (c : ClassDecl) (config : Config) :
    (SameAround m m' c → fileOfClass config m' c = fileOfClass config m c ∧
      ∃ reply notes, ∀ s : Session, s.config = config → s.model = m ∨ s.model = m' →
        s.model.class? c.name = some c →
        s.step (.writeSource c.name) =
          ({ s with diagnostics := s.diagnostics ++ notes }, reply)) ∧
    (m'.departing c.name = m.departing c.name →
      (∀ name, c.superclass = some name →
        m'.classes.filter (·.name == name) = m.classes.filter (·.name == name) ∧
          m'.departing name = m.departing name) →
      fileOfClass config m' c = fileOfClass config m c) := by
  refine ⟨fun h => ?_, fun hown hsuper => ?_⟩
  · have hsame := h.fileOfClass_eq config
    refine ⟨hsame, replyOf .source (fileOfClass config m c).2,
      Journal.diagnostics (fileOfClass config m c).1, ?_⟩
    rintro s rfl hmodel hc
    have hmade : fileOfClass s.config s.model c = fileOfClass s.config m c := by
      rcases hmodel with hmodel | hmodel
      · rw [hmodel]
      · rw [hmodel, hsame]
    rw [step_writeSource_of_class? hc, hmade]
    rfl
  · exact (sameAround_of_filter hown hsuper).fileOfClass_eq config

/-- A cat, which is a pet and plays with some. -/
def cat : ClassDecl :=
  { name := "Cat", attributes := [⟨"pet", "String", .priv⟩], superclass := some "Pet" }

/-- A cat at home. -/
def household : Model where
  classes := [cat, { name := "Pet", attributes := [⟨"name", "String", .priv⟩] }, { name := "Owner" }]
  associations := [
    { kind := .aggregation, departure := "Pet", arrival := "Owner" },
    { kind := .aggregation, departure := "Cat", arrival := "Pet", arrivalMultiplicity := .many },
    { kind := .generalization, departure := "Cat", arrival := "Pet" }]

/-- The cat in a shelter, where pets are animals of some kind, and all comes in another order. -/
def shelter (animal : Option String) : Model where
  classes := [{ name := "Owner", superclass := some "Ghost" },
    { name := "Pet", attributes := [⟨"name", "String", .priv⟩], superclass := animal }, cat]
  associations := [
    { kind := .composition, departure := "Owner", arrival := "Cat" },
    { kind := .aggregation, departure := "Cat", arrival := "Pet", arrivalMultiplicity := .many },
    { kind := .aggregation, departure := "Pet", arrival := "Owner" },
    { kind := .generalization, departure := "Cat", arrival := "Pet" },
    { kind := .other, departure := "Ghost", arrival := "Pet" }]

/-- A session of the household, with a note. -/
def atHome : Session := { model := household, diagnostics := [.info "open" none] }

/-- A session of the shelter, with a table. -/
def inShelter : Session := { model := shelter (some "Animal"), tables := [{ name := "Cat" }] }

/-- The cat has the same source in both places, and its field for pets is renamed in both. It does
not matter which animal a pet is, nor that this animal and a ghost are missing. -/
theorem source_frame_cat :
    fileOfClass {} (shelter (some "Animal")) cat = fileOfClass {} household cat ∧
      fileOfClass {} (shelter none) cat = fileOfClass {} household cat ∧
      (fileOfClass {} household cat).2.isOk ∧
      ∃ reply notes,
        atHome.step (.writeSource "Cat") =
          ({ atHome with diagnostics := atHome.diagnostics ++ notes }, reply) ∧
        inShelter.step (.writeSource "Cat") =
          ({ inShelter with diagnostics := inShelter.diagnostics ++ notes }, reply) ∧
        notes = [.info "field pet renamed to pet2" (some { className := "Cat" })] := by
  have haround : SameAround household (shelter (some "Animal")) cat :=
    ⟨by decide, Or.inr (Or.inr ⟨_, _, rfl, rfl, rfl, rfl, by decide⟩)⟩
  obtain ⟨hsame, reply, notes, hstep⟩ :=
    (source_frame household (shelter (some "Animal")) cat {}).1 haround
  have hshelter : fileOfClass {} (shelter none) cat = fileOfClass {} household cat := by
    refine (source_frame household (shelter none) cat {}).2 (by decide) fun name hname => ?_
    obtain rfl : "Pet" = name := Option.some.inj hname
    decide
  have hhome : atHome.step (.writeSource "Cat") =
      ({ atHome with diagnostics := atHome.diagnostics ++ notes }, reply) :=
    hstep atHome rfl (Or.inl rfl) rfl
  have hnoted : (atHome.step (.writeSource "Cat")).1.diagnostics = atHome.diagnostics ++
      [.info "field pet renamed to pet2" (some { className := "Cat" })] := by
    decide +kernel
  rw [hhome] at hnoted
  exact ⟨hsame, hshelter, by decide +kernel, reply, notes, hhome,
    hstep inShelter rfl (Or.inr rfl) rfl, List.append_cancel_left hnoted⟩

end Blueprint.Session

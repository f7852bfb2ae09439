import Blueprint.Proofs.Artifacts
import Blueprint.Proofs.Model.Edges
import Blueprint.Proofs.Schema.Design
import Blueprint.Proofs.Schema.Rendering
import Blueprint.Proofs.Skeleton.Fields
import Blueprint.Proofs.Skeleton.Layout

/-!
# Schema and class sources tell of the same relations

A class source takes what a class extends from the class, and its fields from the associations that
are no generalizations. A schema takes all foreign keys from the associations. Both agree because
a reading keeps the two in step: the generalizations that leave a class lead to what it extends.
-/

namespace Blueprint

open Schema Skeleton

variable {config : Config}

/-- The reference that a field stands for: an aggregation is cleared, and a composition is deleted
as well. Any other field stands for none. -/
def Skeleton.Field.reference? (f : Field) : Option Reference :=
  match f.kind with
  | .aggregation => some { table := f.elementType, onDelete := .setNull }
  | .composition => some { table := f.elementType, onDelete := .cascade }
  | _ => none

/-- The page of a class and its table agree on the relations of the class in a model. -/
structure AgreeOnRelations (m : Model) (c : ClassDecl) (p : Page config) (t : StoredTable) :
    Prop where
  /-- The page says that the class extends another one if a foreign key says nothing on deletion and
  leads there. -/
  extends_iff : ∀ other, p.Extends other ↔
    (t.keys.filter (·.onDelete == .unstated)).map ForeignKey.references = [other]
  /-- There is no more than one such key. -/
  unstated_le : (t.keys.filter (·.onDelete == .unstated)).length ≤ 1
  /-- The other keys are those of the aggregations and compositions, in the order of the fields. -/
  keys_eq : (t.keys.filter (·.onDelete != .unstated)).map ForeignKey.reference =
    (fields m c).filterMap Field.reference?
  /-- The page has lines for these fields, after those for the attributes. -/
  lines_eq : p.fields =
    (c.attributes.map fun a => a.visibility.keyword ++ " " ++ a.type ++ " " ++ a.name ++ ";") ++
      (fields m c).map fun f => "private " ++ f.type ++ " " ++ f.name ++ ";"
  /-- The fields without a key are those of the other associations. -/
  others_eq : ((fields m c).filter (·.reference?.isNone)).map Field.relation =
    ((m.departing c.name).filter (·.kind == .other)).map fun a => (a.kind, a.arrival, a.isMany)
  /-- These have none, as the keys are those of all the rest. -/
  keys_lead : List.Forall₂ (fun a k => a.arrival = k.references)
    ((m.departing c.name).filter (·.kind != .other)) t.keys

/-! ## Keys and fields of associations -/

/-- The keys of a class are what its associations want. -/
theorem map_reference_keys_design (m : Model) (c : ClassDecl) :
    (design m c).keys.map ForeignKey.reference =
      (m.departing c.name).filterMap wantedReference? := map_reference_ownKeys

theorem filter_unstated (as : List Association) :
    ((as.filterMap wantedReference?).filter (·.onDelete == .unstated)).map Reference.table =
      (as.filter (·.kind == .generalization)).map Association.arrival := by
  induction as with
  | nil => rfl
  | cons a as ih => cases hkind : a.kind <;> simp [wantedReference?, hkind, ih]

theorem filter_stated (as : List Association) (taken : List String) :
    (as.filterMap wantedReference?).filter (·.onDelete != .unstated) =
      (fieldsFrom taken as).filterMap Field.reference? := by
  induction as generalizing taken with
  | nil => rfl
  | cons a as ih =>
    cases hkind : a.kind <;>
      simp [wantedReference?, fieldsFrom, Field.reference?, List.filterMap_cons, hkind, ← ih]

theorem reference?_isNone (f : Field) :
    f.reference?.isNone = (f.kind != .aggregation && f.kind != .composition) := by
  cases hkind : f.kind <;> simp [Field.reference?, hkind]

theorem filter_others (as : List Association) (taken : List String) :
    ((fieldsFrom taken as).filter (·.reference?.isNone)).map Field.relation =
      (as.filter (·.kind == .other)).map fun a => (a.kind, a.arrival, a.isMany) := by
  induction as generalizing taken with
  | nil => rfl
  | cons a as ih =>
    simp only [reference?_isNone] at ih ⊢
    cases hkind : a.kind <;> simp [fieldsFrom, Field.relation, hkind, ih]

theorem map_table_wanted (as : List Association) :
    (as.filterMap wantedReference?).map Reference.table =
      (as.filter (·.kind != .other)).map Association.arrival := by
  induction as with
  | nil => rfl
  | cons a as ih => cases hkind : a.kind <;> simp [wantedReference?, hkind, ih]

theorem forall₂_references {as : List Association} {keys : List ForeignKey}
    (h : keys.map ForeignKey.reference = as.filterMap wantedReference?) :
    List.Forall₂ (fun a k => a.arrival = k.references) (as.filter (·.kind != .other)) keys := by
  have htables : keys.map ForeignKey.references =
      (as.filter (·.kind != .other)).map Association.arrival := by
    rw [← map_table_wanted, ← h, List.map_map]
    rfl
  have hforall : List.Forall₂ Eq ((as.filter (·.kind != .other)).map Association.arrival)
      (keys.map ForeignKey.references) := by
    rw [List.forall₂_eq_eq_eq, htables]
  exact List.forall₂_map_right_iff.mp (List.forall₂_map_left_iff.mp hforall)

/-! ## Agreement -/

/-- The page of a class agrees with the table that the class asks for, if the generalizations that
leave the class lead to what it extends. -/
theorem agreeOnRelations_design {m : Model} {c : ClassDecl} {p : Page config} (hp : p.Shows m c)
    (hextends : ((m.departing c.name).filter (·.kind == .generalization)).map
      Association.arrival = c.superclass.toList) : AgreeOnRelations m c p (design m c) := by
  have hkeys := map_reference_keys_design m c
  -- what a key says on deletion is told by its reference, so either can be filtered
  have hfilter (q : OnDelete → Bool) :
      ((design m c).keys.filter (q ·.onDelete)).map ForeignKey.reference =
        ((m.departing c.name).filterMap wantedReference?).filter (q ·.onDelete) := by
    rw [← hkeys, List.filter_map]
    rfl
  have hunstated : ((design m c).keys.filter (·.onDelete == .unstated)).map ForeignKey.references =
      c.superclass.toList := by
    have htables := congrArg (List.map Reference.table) (hfilter (· == .unstated))
    rw [filter_unstated, hextends, List.map_map] at htables
    exact htables
  refine ⟨fun other => ?_, ?_, ?_, hp.fields_eq, filter_others _ _, forall₂_references hkeys⟩
  · rw [hp.extends_iff, hunstated, Option.toList_eq_singleton_iff]
  · rw [← List.length_map ForeignKey.references, hunstated]
    exact Option.length_toList_le
  · exact (hfilter (· != .unstated)).trans (filter_stated _ _)

/-- Where a text has artifacts, its schema and its class sources tell of the same relations. The text
of a class source says that its class extends another one if and only if the table of the class has a
foreign key that says nothing on deletion, of which there is one at most, and both lead to the same
class. The other keys are those of its aggregations and compositions, in the order of its fields. The
tables are those that the statements build, and these stand in the text of the schema. -/
theorem relations_agree {text : String} {a : Artifacts}
    (h : (Artifacts.ofText config text).2 = .ok a) :
    ∃ (m : Model) (ds : List Diagnostic) (cat : Catalog) (pages : List (Page config)),
      Model.ofText text = .ok (m, ds) ∧
      a.schema = Schema.render config (script m []).statements ∧
      (∀ s ∈ (script m []).statements, s.StandsIn config a.schema) ∧
      Catalog.execute? [] (script m []).statements = some cat ∧
      pages.map Page.file = a.sources ∧
      List.Forall₂ (fun c p => p.Shows m c ∧
        ∃ t, cat.table? c.name = some t ∧ AgreeOnRelations m c p t) m.classes pages := by
  obtain ⟨hread, hmade⟩ := Artifacts.ofReading_eq_ok_iff.mp h
  obtain ⟨hsources, hschema, -⟩ := Artifacts.ofModelAfter_eq_ok_iff.mp hmade
  set m := (Model.readText {} text).model with hm
  have hwell : m.WellFormed := Model.wellFormed_empty.readText text
  obtain ⟨cat, hrun, hdesigned, -⟩ := script_designed hwell
  have hofText : Model.ofText text =
      .ok (m, Journal.diagnostics (Model.readText {} text).journal) := by rw [Model.ofText, hread]
  obtain ⟨pages, hfiles, hall⟩ := exists_pages_of_files hsources
  refine ⟨m, _, cat, pages, hofText, hschema, ?_, hrun, hfiles, ?_⟩
  · rw [hschema]
    exact fun s hs => standsIn_render config hs
  have hmem := (List.forall₂_and_left m.classes pages).mpr ⟨fun _ hc => hc, hall⟩
  refine hmem.imp fun c p hboth => ?_
  obtain ⟨hc, hp⟩ := hboth
  exact ⟨hp, design m c, hdesigned.table?_eq c hc,
    agreeOnRelations_design hp (Model.generalizations_readText hread c hc)⟩

/-- A diagram of dogs, which are pets: they have a pet, know pets, and own dogs. -/
def kennel : Description where
  nodes := [{ id := 1, name := "Pet" }, { id := 2, name := "Dog" }]
  edges := [
    { start := some 2, stop := some 1, type := some "Aggregation" },
    { start := some 2, stop := some 1, type := some "Generalization" },
    { start := some 2, stop := some 1 },
    { start := some 2, stop := some 2, type := some "Composition" }]

/-- The kennel as a text. -/
def kennelText : String :=
  "\x7b\"nodes\":[\x7b\"id\":1,\"name\":\"Pet\"\x7d,\x7b\"id\":2,\"name\":\"Dog\"\x7d],
    \"edges\":[\x7b\"start\":2,\"end\":1,\"type\":\"Aggregation\"\x7d,
    \x7b\"start\":2,\"end\":1,\"type\":\"Generalization\"\x7d,
    \x7b\"start\":2,\"end\":1\x7d,\x7b\"start\":2,\"end\":2,\"type\":\"Composition\"\x7d]\x7d"

set_option maxRecDepth 2000 in
theorem ofText_kennelText : Description.ofText kennelText = .ok kennel :=
  Description.ofText_ofList (by decide +kernel)

/-- The model of the kennel. -/
def kennelModel : Model where
  classes := [{ name := "Pet" }, { name := "Dog", superclass := some "Pet" }]
  associations := [
    { kind := .aggregation, departure := "Dog", arrival := "Pet" },
    { kind := .generalization, departure := "Dog", arrival := "Pet" },
    { kind := .other, departure := "Dog", arrival := "Pet" },
    { kind := .composition, departure := "Dog", arrival := "Dog" }]

/-- The page and the table of dogs agree that a dog is a pet, refers to a pet and owns a dog. -/
theorem relations_agree_kennel :
    ∃ (a : Artifacts) (p : Page {}) (c : ClassDecl) (t : StoredTable),
      (Artifacts.ofText {} kennelText).2 = .ok a ∧ p.file ∈ a.sources ∧ c.name = "Dog" ∧
      AgreeOnRelations kennelModel c p t ∧ p.Extends "Pet" ∧
      p.fields = ["private Pet pet;", "private Pet pet2;", "private Dog dog;"] ∧
      (t.keys.filter (·.onDelete == .unstated)).map ForeignKey.references = ["Pet"] ∧
      (t.keys.filter (·.onDelete != .unstated)).map ForeignKey.reference =
        [⟨"Pet", .setNull⟩, ⟨"Dog", .cascade⟩] := by
  obtain ⟨hok, hmodel⟩ : (kennel.readInto {}).failure = none ∧
      (kennel.readInto {}).model = kennelModel := by decide +kernel
  have hread := Model.ofText_of_readInto ofText_kennelText hok
  rw [hmodel] at hread
  obtain ⟨b, -, hmade, -⟩ := Artifacts.ofText_of_read {} hread
  obtain ⟨m, ds, cat, pages, hm, -, -, -, hfiles, hall⟩ := relations_agree hmade
  obtain rfl : kennelModel = m := by
    rw [hread] at hm
    exact congrArg Prod.fst (Except.ok.inj hm)
  -- dogs are the second class
  have hlength := hall.length_eq
  obtain ⟨hshows, t, -, hagree⟩ := hall.get (i := 1) (by decide) (by rw [← hlength]; decide)
  have hpet : (pages.get ⟨1, by rw [← hlength]; decide⟩).Extends "Pet" :=
    (hshows.extends_iff "Pet").mpr rfl
  refine ⟨_, _, _, t, hmade, ?_, rfl, hagree, hpet, ?_, (hagree.extends_iff "Pet").mp hpet, ?_⟩
  · rw [← hfiles]
    exact List.mem_map_of_mem (List.get_mem _ _)
  · rw [hagree.lines_eq]
    decide +kernel
  · rw [hagree.keys_eq]
    decide +kernel

end Blueprint

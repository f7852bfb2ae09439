import Blueprint.Proofs.Artifacts
import Blueprint.Proofs.Model.Labels

/-!
# Labels hardly show

The schema and the diagnostics depend on no label of an edge at all. The class sources depend on the
labels at the ends of the edges, and on these only for whether they say that more than one object may
stand there: it decides which fields hold lists.
-/

namespace Blueprint

variable {R : Association → Association → Prop} {m m' : Model} {as as' : List Association}

theorem Relabelled.departing (h : Relabelled R m m') (hR : ∀ a a', R a a' → a.SameEnds a')
    (name : String) : List.Forall₂ R (m.departing name) (m'.departing name) := by
  refine List.rel_filter ?_ h.associations
  intro a a' ha
  simp only [(hR a a' ha).departure_eq]

theorem Relabelled.superclassOf_eq (h : Relabelled R m m') : m'.superclassOf = m.superclassOf := by
  funext c
  rw [Model.superclassOf, Model.superclassOf]
  congr 1
  funext name
  rw [Model.class?, Model.class?, h.classes_eq]

/-! ## The schema -/

namespace Schema

theorem reference?_eq {a a' : Association} (h : a.SameEnds a') : reference? a' = reference? a := by
  rw [reference?, reference?, h.kind_eq, h.arrival_eq]

theorem createArrivals_eq (h : List.Forall₂ Association.SameEnds as as') (table : String)
    (ts : Tables) : createArrivals table ts as' = createArrivals table ts as := by
  induction h generalizing ts with
  | nil => rfl
  | cons ha _ ih =>
    rw [createArrivals, createArrivals, reference?_eq ha]
    simp only [ha.departure_eq, ha.arrival_eq, ih]

theorem filterMap_reference?_eq (h : List.Forall₂ Association.SameEnds as as') :
    as'.filterMap reference? = as.filterMap reference? := by
  induction h with
  | nil => rfl
  | cons ha _ ih => rw [List.filterMap_cons, List.filterMap_cons, reference?_eq ha, ih]

/-- Models that differ in their labels have the same script. -/
theorem script_eq (h : Relabelled Association.SameEnds m m') (ts : Tables) :
    script m' ts = script m ts := by
  have hclass (ts : Tables) (c : ClassDecl) : scriptOfClass m' ts c = scriptOfClass m ts c := by
    have hleaving := h.departing (fun _ _ ha => ha) c.name
    simp only [scriptOfClass, createArrivals_eq hleaving, filterMap_reference?_eq hleaving]
  have hclasses (ts : Tables) (cs : List ClassDecl) :
      scriptOfClasses m' ts cs = scriptOfClasses m ts cs := by
    induction cs generalizing ts with
    | nil => rfl
    | cons c cs ih => simp only [scriptOfClasses, hclass, ih]
  simp only [script, h.classes_eq, hclasses]

end Schema

/-! ## Class sources -/

namespace Skeleton

/-- Fields are named alike, whatever the labels say. -/
theorem fieldsRenamed_fieldsFrom_eq (h : List.Forall₂ Association.SameEnds as as')
    (className : String) (taken : List String) :
    fieldsRenamed className (fieldsFrom taken as') =
      fieldsRenamed className (fieldsFrom taken as) := by
  induction h generalizing taken with
  | nil => rfl
  | cons ha _ ih =>
    rw [fieldsFrom, fieldsFrom, ha.kind_eq, ha.arrival_eq]
    split
    · exact ih taken
    · simp only [fieldsRenamed] at ih
      simp only [fieldsRenamed, List.filterMap_cons, ih]

theorem fieldsFrom_eq (h : List.Forall₂ Association.SameEndsAndMany as as') (taken : List String) :
    fieldsFrom taken as' = fieldsFrom taken as := by
  induction h generalizing taken with
  | nil => rfl
  | cons ha _ ih =>
    simp only [fieldsFrom, ha.kind_eq, ha.arrival_eq, ha.isMany_eq, ih]

/-- Models that differ in their labels have the same notes on the fields of their classes. -/
theorem fieldsRenamed_fields_eq (h : Relabelled Association.SameEnds m m') (c : ClassDecl) :
    fieldsRenamed c.name (fields m' c) = fieldsRenamed c.name (fields m c) :=
  fieldsRenamed_fieldsFrom_eq (h.departing (fun _ _ ha => ha) c.name) _ _

/-- Where the labels agree on which fields hold lists, the models have the same sources. -/
theorem files_eq (h : Relabelled Association.SameEndsAndMany m m')
    (config : Config) : files config m' = files config m := by
  have hfields : fields m' = fields m := by
    funext c
    exact fieldsFrom_eq (h.departing (fun _ _ ha => ha.toSameEnds) c.name) _
  exact files_congr h.classes_eq (fileOfClass_of_fields_eq hfields h.superclassOf_eq)

end Skeleton

namespace Artifacts

/-- Two descriptions of one kind and with the same nodes, whose edges have the same types and ends
but any labels, both have artifacts or fail alike. Their schemas and their diagnostics are then the
same. So are their class sources, if the labels at the ends of the edges agree on where more than one
object may stand. -/
theorem ofReading_relabelled {d d' : Description} (hdiagram : d'.diagram = d.diagram)
    (hnodes : d'.nodes = d.nodes) (hedges : List.Forall₂ Edge.SameEnds d.edges d'.edges)
    (config : Config) :
    (∀ f, (ofReading config (d.readInto {})).2 = .error f ↔
      (ofReading config (d'.readInto {})).2 = .error f) ∧
    ∀ a, (ofReading config (d.readInto {})).2 = .ok a →
      ∃ a', (ofReading config (d'.readInto {})).2 = .ok a' ∧ a'.schema = a.schema ∧
        a'.diagnostics = a.diagnostics ∧
        (List.Forall₂ (fun e e' => e.SaysMany ↔ e'.SaysMany) d.edges d'.edges →
          a'.sources = a.sources) := by
  obtain ⟨hfailure, hread⟩ := Description.readInto_relabelled hdiagram hnodes
    (hedges.imp fun _ _ he => he.relabelled)
  have herror : ∀ f, (ofReading config (d.readInto {})).2 = .error f ↔
      (ofReading config (d'.readInto {})).2 = .error f := by
    intro f
    rw [ofReading_readInto_eq_error_iff, ofReading_readInto_eq_error_iff, hfailure]
  refine ⟨herror, fun a ha => ?_⟩
  obtain ⟨a', ha'⟩ : ∃ a', (ofReading config (d'.readInto {})).2 = .ok a' := by
    cases hresult : (ofReading config (d'.readInto {})).2 with
    | ok a' => exact ⟨a', rfl⟩
    | error f =>
      rw [(herror f).mpr hresult] at ha
      exact absurd ha (by simp)
  obtain ⟨hnone, hmade⟩ := ofReading_eq_ok_iff.mp ha
  obtain ⟨-, hmade'⟩ := ofReading_eq_ok_iff.mp ha'
  obtain ⟨hfiles, hschema, hdiagnostics⟩ := ofModelAfter_eq_ok_iff.mp hmade
  obtain ⟨hfiles', hschema', hdiagnostics'⟩ := ofModelAfter_eq_ok_iff.mp hmade'
  obtain ⟨hnotes, hmodel⟩ := hread hnone
  have hscript := Schema.script_eq hmodel []
  refine ⟨a', ha', ?_, ?_, fun hmany => ?_⟩
  · rw [hschema', hschema, hscript]
  · rw [hdiagnostics', hdiagnostics, hnotes, hscript, Skeleton.diagnostics_files hfiles,
      Skeleton.diagnostics_files hfiles', hmodel.classes_eq]
    simp only [Skeleton.fieldsRenamed_fields_eq hmodel]
  · -- where the labels agree on lists, the two readings also agree on the fields
    have hlists : List.Forall₂ (Edge.Relabelled Association.SameEndsAndMany) d.edges d'.edges :=
      List.forall₂_iff_zip.mpr ⟨hedges.length_eq, fun hmem =>
        ((List.forall₂_iff_zip.mp hedges).2 hmem).relabelled_of_iff
          ((List.forall₂_iff_zip.mp hmany).2 hmem)⟩
    obtain ⟨-, hread⟩ := Description.readInto_relabelled hdiagram hnodes hlists
    obtain ⟨-, hmodel⟩ := hread hnone
    rw [Skeleton.files_eq hmodel, hfiles] at hfiles'
    exact (Except.ok.inj hfiles').symm

/-- A diagram of herds and cows with some labels: a herd has cows and owns a bell, and a cow has a
leader, which is a cow. -/
def herdWith (cows bell note : Option String) : Description where
  nodes := [{ id := 1, name := "Herd" }, { id := 2, name := "Cow", attributes := "age: years" },
    { id := 3, name := "Bell" }]
  edges := [
    { start := some 1, stop := some 2, type := some "AggregationEdge", endLabel := cows,
      middleLabel := note },
    { start := some 1, stop := some 3, type := some "CompositionEdge", endLabel := bell,
      startLabel := note },
    { start := some 2, stop := some 2, type := some "AggregationEdge", directionality := note },
    { start := some 2, stop := some 4, generalizationType := note }]

/-- Other labels that agree on which ones say many make the same artifacts. Where one bell becomes
many, the sources change, and nothing else does. -/
theorem ofReading_relabelled_herd :
    ∃ a a' a'', (ofReading {} ((herdWith (some " *") none none).readInto {})).2 = .ok a ∧
      (ofReading {} ((herdWith (some "1..*") (some "0..1") (some "old")).readInto {})).2 = .ok a' ∧
      (ofReading {} ((herdWith (some "*") (some "*") none).readInto {})).2 = .ok a'' ∧
      a'.schema = a.schema ∧ a'.diagnostics = a.diagnostics ∧ a'.sources = a.sources ∧
      a.diagnostics.length = 2 ∧ a''.schema = a.schema ∧ a''.diagnostics = a.diagnostics ∧
      a''.sources ≠ a.sources := by
  have hends (cows bell note : Option String) :
      List.Forall₂ Edge.SameEnds (herdWith (some " *") none none).edges
        (herdWith cows bell note).edges :=
    .cons ⟨rfl, rfl, rfl, rfl⟩ (.cons ⟨rfl, rfl, rfl, rfl⟩ (.cons ⟨rfl, rfl, rfl, rfl⟩
      (.cons ⟨rfl, rfl, rfl, rfl⟩ .nil)))
  have hmany : List.Forall₂ (fun e e' => e.SaysMany ↔ e'.SaysMany)
      (herdWith (some " *") none none).edges
      (herdWith (some "1..*") (some "0..1") (some "old")).edges := by
    simp only [← Edge.isMany_association_iff _ "Herd" "Cow"]
    decide
  obtain ⟨a, ha, hlength⟩ : ∃ a,
      (ofReading {} ((herdWith (some " *") none none).readInto {})).2 = .ok a ∧
        a.diagnostics.length = 2 := ⟨_, rfl, by decide +kernel⟩
  have hsame (cows bell note : Option String) :=
    (@ofReading_relabelled (herdWith (some " *") none none) (herdWith cows bell note) rfl rfl
      (hends cows bell note) {}).2 a ha
  obtain ⟨a', ha', hschema, hdiagnostics, hsources⟩ := hsame (some "1..*") (some "0..1") (some "old")
  obtain ⟨a'', ha'', hschema', hdiagnostics', -⟩ := hsame (some "*") (some "*") none
  have hdiffer :
      (ofReading {} ((herdWith (some "*") (some "*") none).readInto {})).2.toOption.map sources ≠
        (ofReading {} ((herdWith (some " *") none none).readInto {})).2.toOption.map sources := by
    decide +kernel
  rw [ha, ha''] at hdiffer
  exact ⟨a, a', a'', ha, ha', ha'', hschema, hdiagnostics, hsources hmany, hlength, hschema',
    hdiagnostics', fun h => hdiffer (congrArg some h)⟩

end Artifacts

end Blueprint

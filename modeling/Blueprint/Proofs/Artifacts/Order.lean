import Blueprint.Proofs.Artifacts
import Blueprint.Proofs.Model.Order
import Blueprint.Proofs.Schema.Notes

/-!
# The order of nodes does not show

Listing the nodes of a description in another order changes the order of the classes, and with it
the text of the schema: other tables are created ahead of their classes. What is made for a class
stays the same: its source, its table, and the notes on it.
-/

namespace Blueprint

open Schema

/-! ## Models with their classes in another order -/

namespace Reordered

variable {m m' : Model} {config : Config}

/-- They build the same tables. -/
theorem exists_catalogs (h : Reordered m m') (hm : m.WellFormed) (hm' : m'.WellFormed) :
    ∃ cat cat', Catalog.execute? [] (script m []).statements = some cat ∧
      Catalog.execute? [] (script m' []).statements = some cat' ∧ cat'.Perm cat := by
  obtain ⟨cat, hrun, -, hperm⟩ := script_designed hm
  obtain ⟨cat', hrun', -, hperm'⟩ := script_designed hm'
  rw [design_congr h.associations_eq] at hperm'
  exact ⟨cat, cat', hrun, hrun', hperm'.trans ((h.classes_perm.map _).trans hperm.symm)⟩

theorem script_notes_perm (h : Reordered m m') (hm : m.WellFormed) (hm' : m'.WellFormed) :
    (Journal.diagnostics (script m' []).journal).Perm
      (Journal.diagnostics (script m []).journal) := by
  rw [diagnostics_script hm, diagnostics_script hm', designNotes_congr h.associations_eq]
  exact h.classes_perm.flatMap_right _

/-- Each class has the same source. -/
theorem exists_files (h : Reordered m m') {fs : List Skeleton.SourceFile}
    (hfiles : (Skeleton.files config m).2 = .ok fs) :
    ∃ fs', (Skeleton.files config m').2 = .ok fs' ∧ fs'.Perm fs ∧
      (Journal.diagnostics (Skeleton.files config m').1).Perm
        (Journal.diagnostics (Skeleton.files config m).1) := by
  have hsame : Skeleton.fileOfClass config m' = Skeleton.fileOfClass config m :=
    Skeleton.fileOfClass_congr h.departing_eq h.superclassOf_eq
  obtain ⟨fs', hfiles', hperm⟩ := Skeleton.files_perm hfiles h.classes_perm hsame
  refine ⟨fs', hfiles', hperm, ?_⟩
  rw [Skeleton.diagnostics_files hfiles, Skeleton.diagnostics_files hfiles',
    Skeleton.fields_congr h.departing_eq]
  exact h.classes_perm.flatMap_right _

end Reordered

namespace Artifacts

variable {config : Config}

/-- Two readings and their artifacts that differ in the order of the classes and in nothing else. -/
structure MadeAlike (config : Config) (r r' : Reading) (a a' : Artifacts) : Prop where
  /-- The associations are the same. -/
  associations_eq : r'.model.associations = r.model.associations
  /-- The classes are, in some order, and so is what they extend. -/
  classes_perm : r'.model.classes.Perm r.model.classes
  /-- Their sources are. -/
  sources_perm : a'.sources.Perm a.sources
  /-- The schemas are the scripts of the models, in words. -/
  schema_eq : a.schema = render config (script r.model []).statements ∧
    a'.schema = render config (script r'.model []).statements
  /-- They build the same tables, each with its columns and its keys in the same order. -/
  tables_perm : ∃ cat cat', Catalog.execute? [] (script r.model []).statements = some cat ∧
    Catalog.execute? [] (script r'.model []).statements = some cat' ∧ cat'.Perm cat
  /-- The diagnostics are the same, in some order. -/
  diagnostics_perm : a'.diagnostics.Perm a.diagnostics

variable {d d' : Description}

/-- What a description is made into, it is made into with its nodes in another order. -/
theorem exists_madeAlike (hdiagram : d'.diagram = d.diagram) (hedges : d'.edges = d.edges)
    (hnodes : d'.nodes.Perm d.nodes) {a : Artifacts}
    (h : (ofReading config (d.readInto {})).2 = .ok a) :
    ∃ a', (ofReading config (d'.readInto {})).2 = .ok a' ∧
      MadeAlike config (d.readInto {}) (d'.readInto {}) a a' := by
  obtain ⟨hread, hmade⟩ := ofReading_eq_ok_iff.mp h
  obtain ⟨hfiles, hschema, hdiagnostics⟩ := ofModelAfter_eq_ok_iff.mp hmade
  obtain ⟨hread', hreordered, hnotes⟩ :=
    Description.readInto_perm hdiagram hedges hnodes hread
  set m := (d.readInto {}).model with hm
  set m' := (d'.readInto {}).model with hm'
  have hwell : m.WellFormed := Model.wellFormed_empty.readInto d
  have hwell' : m'.WellFormed := Model.wellFormed_empty.readInto d'
  have hscripts := hreordered.script_notes_perm hwell hwell'
  obtain ⟨files, hfiles', hsources, hrenamed⟩ := hreordered.exists_files hfiles
  refine ⟨{ schema := render config (script m' []).statements
            sources := files
            diagnostics := Journal.diagnostics (d'.readInto {}).journal ++
              (Journal.diagnostics (script m' []).journal ++
                Journal.diagnostics (Skeleton.files config m').1) }, ?_, ?_⟩
  · exact ofReading_eq_ok_iff.mpr ⟨hread', ofModelAfter_eq_ok_iff.mpr ⟨hfiles', rfl, rfl⟩⟩
  · refine ⟨hreordered.associations_eq, hreordered.classes_perm, hsources, ⟨hschema, rfl⟩,
      hreordered.exists_catalogs hwell hwell', ?_⟩
    -- notes of the reading, of the schema and of the sources, each in another order
    rw [hdiagnostics]
    exact hnotes.append (hscripts.append hrenamed)

/-- Two descriptions of one kind and with the same edges, whose nodes are the same in some order,
both have artifacts or neither has. Their classes, sources, tables and diagnostics are then the same
in some order, and their associations in the same one. -/
theorem ofReading_perm (hdiagram : d'.diagram = d.diagram) (hedges : d'.edges = d.edges)
    (hnodes : d'.nodes.Perm d.nodes) (config : Config) :
    ((∃ a, (ofReading config (d.readInto {})).2 = .ok a) ↔
      ∃ a', (ofReading config (d'.readInto {})).2 = .ok a') ∧
    ∀ a a', (ofReading config (d.readInto {})).2 = .ok a →
      (ofReading config (d'.readInto {})).2 = .ok a' →
      MadeAlike config (d.readInto {}) (d'.readInto {}) a a' := by
  refine ⟨⟨?_, ?_⟩, ?_⟩
  · rintro ⟨a, ha⟩
    obtain ⟨a', ha', -⟩ := exists_madeAlike hdiagram hedges hnodes ha
    exact ⟨a', ha'⟩
  · rintro ⟨a', ha'⟩
    obtain ⟨a, ha, -⟩ := exists_madeAlike hdiagram.symm hedges.symm hnodes.symm ha'
    exact ⟨a, ha⟩
  · intro a a' ha ha'
    obtain ⟨b, hb, halike⟩ := exists_madeAlike hdiagram hedges hnodes ha
    rw [ha'] at hb
    exact Except.ok.inj hb ▸ halike

/-- A diagram of trees, which own their fruits, and of fruits, which know their tree. A node is no
class, and a parameter has no name. -/
def orchard : Description where
  nodes := [{ id := 3, name := "Tree", methods := "+ grow(int): void" },
    { id := 1, name := "Fruit", attributes := "id: long\n- tree: String" },
    { id := 2, type := some "NoteNode" }]
  edges := [
    { start := some 3, stop := some 1, type := some "CompositionEdge", endLabel := some "*" },
    { start := some 1, stop := some 3, type := some "AggregationEdge" },
    { start := some 1, stop := some 2 }]

/-- The orchard with its nodes the other way round. -/
def orchardReversed : Description := { orchard with nodes := orchard.nodes.reverse }

/-- The orchard the other way round has the same artifacts in another order. -/
theorem ofReading_perm_orchard :
    ∃ a a', (ofReading {} (orchard.readInto {})).2 = .ok a ∧
      (ofReading {} (orchardReversed.readInto {})).2 = .ok a' ∧
      (orchard.readInto {}).model.names = ["Tree", "Fruit"] ∧ a'.sources.Perm a.sources ∧
      a'.diagnostics.Perm a.diagnostics ∧ a.diagnostics.length = 4 := by
  have hdiagram : orchardReversed.diagram = orchard.diagram := rfl
  have hedges : orchardReversed.edges = orchard.edges := rfl
  have hnodes : orchardReversed.nodes.Perm orchard.nodes := List.reverse_perm orchard.nodes
  obtain ⟨hiff, hall⟩ := ofReading_perm hdiagram hedges hnodes {}
  obtain ⟨a, ha, hlength⟩ : ∃ a, (ofReading {} (orchard.readInto {})).2 = .ok a ∧
      a.diagnostics.length = 4 := ⟨_, rfl, by decide +kernel⟩
  obtain ⟨a', ha'⟩ := hiff.mp ⟨a, ha⟩
  have halike := hall a a' ha ha'
  exact ⟨a, a', ha, ha', by decide +kernel, halike.sources_perm, halike.diagnostics_perm, hlength⟩

end Artifacts

end Blueprint

import Blueprint.Proofs.Artifacts
import Blueprint.Proofs.Model.Notes
import Blueprint.Proofs.Schema.Notes
import Blueprint.Proofs.Skeleton.Fields

/-!
# Nothing is left out or renamed silently

All that is lost on the way from a text to its artifacts is told by a warning, and all that is made
differently from what was wanted by an info. What is lost can be counted in the description, and what
was made differently in the tables and the fields. The diagnostics are exactly as many.
-/

namespace Blueprint

open Declaration (blockTexts typeText)

/-- How many attributes of a block have a type without a column. -/
def Declaration.unmapped (block : String) : Nat :=
  (blockTexts block).countP fun line =>
    String.ofList (Text.trimChars (typeText line)) ∉ Schema.columnTypes

/-- How many attributes of classes have a type without a column. -/
def Description.unmapped (d : Description) : Nat :=
  ((d.nodes.filter Node.isClass).map fun n => Declaration.unmapped n.attributes).sum

/-- How many columns of tables have another name than the wanted one. -/
def Schema.renamedColumns (m : Model) (cat : Catalog) : Nat :=
  (m.classes.map fun c =>
    differing (wantedNames m c) ((cat.tableOrBare c.name).columns.map Column.name)).sum

/-- How many fields for associations have another name than the wanted one. -/
def Skeleton.renamedFields (m : Model) : Nat :=
  (m.classes.map fun c => (fields m c).countP Field.isRenamed).sum

variable {d : Description} {n : Node} {c : ClassDecl} {ds : List Diagnostic}

/-! ## Attributes without a column -/

/-- How many attributes have no column. -/
def unmappedOf (as : List Attribute) : Nat := as.countP fun a => (Schema.wantedColumn? a).isNone

theorem unmappedOf_readClass (h : n.readClass = (ds, .ok c)) :
    unmappedOf c.attributes = Declaration.unmapped n.attributes := by
  have htypes := Declaration.map_type_of_readAttributes (Node.readClass_blocks h).1
  have hattributes : unmappedOf c.attributes =
      (c.attributes.map Attribute.type).countP (Text.trim · ∉ Schema.columnTypes) := by
    rw [unmappedOf, List.countP_map]
    refine List.countP_congr fun a _ => ?_
    rw [Schema.wantedColumn?_isNone_iff]
    exact decide_eq_true_iff.symm
  rw [hattributes, htypes, List.countP_map, Declaration.unmapped]
  refine List.countP_congr fun line _ => ?_
  have htrimmed : Text.trim (String.ofList (Text.trimChars (typeText line))) =
      String.ofList (Text.trimChars (typeText line)) := by
    rw [Text.trim, String.toList_ofList, Text.trimChars_of_trimmed (Text.trimmed_trimChars _)]
  simp only [Function.comp_apply, htrimmed]

theorem sum_unmappedOf {ns : List Node}
    (hread : ∀ n ∈ ns, n.isClass → ∃ ds c, n.readClass = (ds, .ok c)) :
    ((ns.filterMap Node.class?).map fun c => unmappedOf c.attributes).sum =
      ((ns.filter Node.isClass).map fun n => Declaration.unmapped n.attributes).sum := by
  induction ns with
  | nil => rfl
  | cons n ns ih =>
    obtain ⟨hn, hns⟩ := List.forall_mem_cons.mp hread
    cases hclass : n.isClass with
    | false =>
      have hnone : n.class? = none := by simp [Node.class?, hclass]
      rw [List.filterMap_cons_none hnone, List.filter_cons_of_neg (by simp [hclass]), ih hns]
    | true =>
      obtain ⟨ds, c, hread⟩ := hn hclass
      have hsome : n.class? = some c := by simp [Node.class?, hclass, hread, Except.toOption]
      rw [List.filterMap_cons_some hsome, List.filter_cons_of_pos hclass, List.map_cons,
        List.map_cons, List.sum_cons, List.sum_cons, ih hns, unmappedOf_readClass hread]

/-- Edges do not change the attributes of classes. -/
theorem Description.map_attributes_readInto (h : (d.readInto {}).failure = none) :
    (d.readInto {}).model.classes.map ClassDecl.attributes =
      (d.nodes.filterMap Node.class?).map ClassDecl.attributes := by
  obtain ⟨hnodes, hmodel, -⟩ := readInto_of_failure_eq_none h
  obtain ⟨hclasses, -⟩ := readNodes_of_acceptable (readNodes_failure_eq_none_iff.mp hnodes)
  have hkept := readEdges_induction
    (P := fun m => m.classes.map ClassDecl.attributes =
      (readNodes {} [] d.nodes).2.model.classes.map ClassDecl.attributes)
    rfl (fun m a hm _ _ => (Model.map_classesAfter fun _ _ => rfl).trans hm)
    (index_readNodes_mem {} [] d.nodes) [] 0 d.edges
  rw [hmodel, hkept.2, hclasses, List.nil_append]

theorem Description.sum_unmappedOf_readInto (h : (d.readInto {}).failure = none) :
    ((d.readInto {}).model.classes.map fun c => unmappedOf c.attributes).sum = d.unmapped := by
  obtain ⟨hnodes, -⟩ := readInto_of_failure_eq_none h
  have hreadable := (readNodes_failure_eq_none_iff.mp hnodes).readable
  have hsame := congrArg (List.map unmappedOf) (map_attributes_readInto h)
  rw [List.map_map, List.map_map] at hsame
  rw [unmapped, ← sum_unmappedOf hreadable]
  exact congrArg List.sum hsame

/-! ## All notes -/

theorem Schema.tally_script {m : Model} {cat : Catalog} (hm : m.WellFormed)
    (hcat : Designed m m.classes cat) :
    Tally (Journal.diagnostics (script m []).journal)
      (m.classes.map fun c => unmappedOf c.attributes).sum (renamedColumns m cat) := by
  have htables : renamedColumns m cat = (m.classes.map fun c =>
      differing (wantedNames m c) ((design m c).columns.map Column.name)).sum := by
    refine congrArg List.sum (List.map_congr_left fun c hc => ?_)
    rw [Catalog.tableOrBare, hcat.table?_eq c hc, Option.getD_some]
  rw [diagnostics_script hm, htables]
  exact Tally.flatMap fun c _ => tally_designNotes m c

theorem Skeleton.tally_files {config : Config} {m : Model} {fs : List SourceFile}
    (h : (files config m).2 = .ok fs) :
    Tally (Journal.diagnostics (files config m).1) 0 (renamedFields m) := by
  have hzero : (m.classes.map fun _ => 0).sum = 0 := by simp
  rw [diagnostics_files h, ← hzero]
  exact Tally.flatMap fun c _ => tally_fieldsRenamed c.name (m.departing c.name)

namespace Artifacts

/-- There are as many warnings as there are things left out of the description: ends of edges that
are no nodes of classes, edges that would make a class extend itself or a second class, parameters
that are not two words, and attributes without a column. There are as many infos as there are nodes
that stand for no class, and columns and fields with another name than the wanted one. -/
theorem tally_diagnostics {config : Config} {text : String} {a : Artifacts}
    (h : (ofText config text).2 = .ok a) :
    ∃ d m ds cat, Description.ofText text = .ok d ∧ Model.ofText text = .ok (m, ds) ∧
      a.schema = Schema.render config (Schema.script m []).statements ∧
      Schema.Catalog.execute? [] (Schema.script m []).statements = some cat ∧
      (∀ c ∈ m.classes, (cat.tableOrBare c.name).columns.length =
        (Schema.wantedNames m c).length) ∧
      a.diagnostics.countP (·.severity == .warning) =
        (d.edges.map d.looseEnds).sum + d.refusals d.edges + d.strays + d.unmapped ∧
      a.diagnostics.countP (·.severity == .info) =
        d.bystanders + Schema.renamedColumns m cat + Skeleton.renamedFields m := by
  obtain ⟨d, hd, hread, hmodel, hmade⟩ := exists_of_ofText h
  obtain ⟨hfiles, hschema, hdiagnostics⟩ := ofModelAfter_eq_ok_iff.mp hmade
  have hwell := Model.wellFormed_empty.readInto d
  obtain ⟨cat, hrun, hdesigned, -⟩ := Schema.script_designed hwell
  have htally := (Description.tally_readInto hread).append
    ((Schema.tally_script hwell hdesigned).append (Skeleton.tally_files hfiles))
  rw [Description.sum_unmappedOf_readInto hread, ← hdiagnostics] at htally
  refine ⟨d, _, _, cat, hd, hmodel, hschema, hrun, ?_, ?_, ?_⟩
  · intro c hc
    have htable : cat.tableOrBare c.name = Schema.design (d.readInto {}).model c := by
      rw [Schema.Catalog.tableOrBare, hdesigned.table?_eq c hc, Option.getD_some]
    rw [htable, Schema.wantedNames, List.length_map]
    exact Schema.length_ownColumns
  · rw [htally.warnings_eq]
    omega
  · rw [htally.infos_eq]
    omega

/-- A workshop: orders are items and own items. An attribute has the name that a foreign key wants,
another one that of a field. One edge makes orders extend themselves, one leads from nowhere to a
note, and a parameter has no name. -/
def workshop : Description where
  nodes := [
    { id := 1, name := "Order", attributes := "id_Item: int\nitem: Item"
      methods := "run( ): void\nadd(Item, int n): void" },
    { id := 2, name := "Item" }, { id := 3, type := some "NoteNode" }]
  edges := [
    { start := some 1, stop := some 2, type := some "GeneralizationEdge" },
    { start := some 1, stop := some 1, type := some "GeneralizationEdge" },
    { stop := some 3 },
    { start := some 1, stop := some 2, type := some "CompositionEdge" }]

/-- The workshop as a text. -/
def workshopText : String :=
  "\x7b\"nodes\":[\x7b\"id\":1,\"name\":\"Order\",
    \"attributes\":\"id_Item: int\\nitem: Item\",
    \"methods\":\"run( ): void\\nadd(Item, int n): void\"\x7d,
    \x7b\"id\":2,\"name\":\"Item\"\x7d,\x7b\"id\":3,\"type\":\"NoteNode\"\x7d],
    \"edges\":[\x7b\"start\":1,\"end\":2,\"type\":\"GeneralizationEdge\"\x7d,
    \x7b\"start\":1,\"end\":1,\"type\":\"GeneralizationEdge\"\x7d,
    \x7b\"end\":3\x7d,\x7b\"start\":1,\"end\":2,\"type\":\"CompositionEdge\"\x7d]\x7d"

set_option maxRecDepth 2000 in
theorem ofText_workshopText : Description.ofText workshopText = .ok workshop :=
  Description.ofText_ofList (by decide +kernel)

/-- The workshop loses two ends, an edge, a parameter and a column, which makes five warnings. A note,
two columns and a field make four infos. -/
theorem tally_diagnostics_workshop :
    ∃ a, (ofText {} workshopText).2 = .ok a ∧
      a.diagnostics.countP (·.severity == .warning) = 5 ∧
      a.diagnostics.countP (·.severity == .info) = 4 := by
  have hread : (workshop.readInto {}).failure = none := by decide +kernel
  obtain ⟨a, ha⟩ := exists_ofText_of_readInto {} ofText_workshopText hread
  obtain ⟨d, m, ds, cat, hd, hm, -, hcat, -, hwarnings, hinfos⟩ := tally_diagnostics ha
  obtain rfl : workshop = d := Except.ok.inj (ofText_workshopText.symm.trans hd)
  rw [Model.ofText_of_readInto ofText_workshopText hread] at hm
  obtain ⟨rfl, -⟩ := Prod.mk.inj (Except.ok.inj hm)
  refine ⟨a, ha, ?_, ?_⟩
  · rw [hwarnings]
    decide +kernel
  · have hrenamed : (Schema.Catalog.execute? [] (Schema.script (workshop.readInto {}).model
        []).statements).map (Schema.renamedColumns (workshop.readInto {}).model) = some 2 := by
      decide +kernel
    rw [hcat, Option.map_some, Option.some.injEq] at hrenamed
    rw [hinfos, hrenamed]
    decide +kernel

end Artifacts

end Blueprint

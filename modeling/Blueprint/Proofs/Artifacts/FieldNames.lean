import Blueprint.Proofs.Artifacts
import Blueprint.Proofs.Schema.Design
import Blueprint.Proofs.Skeleton.Fields

/-!
# Names within a class

A table never has two columns of one name: a name that is taken is numbered, whoever took it. The
fields for associations give way in the same manner, to attributes and to each other. Attributes do
not, since they keep their names. So a class source declares two fields of one name if and only if
the class has two attributes of this name.
-/

namespace Blueprint

open Schema Skeleton

/-- Names that are those of attributes, and then fresh ones. -/
structure FreshAfter (attributes names : List String) : Prop where
  /-- The attributes come first. -/
  starts : attributes <+: names
  /-- The names behind them are different. -/
  nodup_drop : (names.drop attributes.length).Nodup
  /-- None of these is the name of an attribute. -/
  disjoint_drop : attributes.Disjoint (names.drop attributes.length)

/-- Such names are different if and only if those of the attributes are. -/
theorem FreshAfter.nodup_iff {attributes names : List String} (h : FreshAfter attributes names) :
    names.Nodup ↔ attributes.Nodup := by
  obtain ⟨⟨rest, rfl⟩, hrest, hdisjoint⟩ := h
  rw [List.drop_left] at hrest hdisjoint
  rw [List.nodup_append']
  exact ⟨fun hall => hall.1, fun hattributes => ⟨hattributes, hrest, hdisjoint⟩⟩

theorem freshAfter_fields {m : Model} {c : ClassDecl} {s : Source}
    (h : (Source.ofClass m c).2 = .ok s) :
    FreshAfter (c.attributes.map Attribute.name) (s.fields.map FieldDecl.name) := by
  obtain ⟨creation, rfl⟩ := Source.eq_build_of_ofClass h
  have hnames : (Source.build c (fields m c) creation).fields.map FieldDecl.name =
      c.attributes.map Attribute.name ++ (fields m c).map Field.name := by
    rw [Source.build, List.map_append, List.map_map, List.map_map]
    rfl
  rw [hnames]
  refine ⟨List.prefix_append _ _, ?_, ?_⟩
  · rw [List.drop_left]
    exact nodup_name_fields m c
  · rw [List.drop_left]
    intro name hattribute hfield
    obtain ⟨f, hf, rfl⟩ := List.mem_map.mp hfield
    exact name_ne_attribute hf hattribute

/-- In the artifacts of a text, the fields of a class source have different names if and only if the
attributes of the class have. The fields for associations have names of their own in any case, and so
have all columns of a table. -/
theorem nodup_fields_iff {config : Config} {text : String} {a : Artifacts}
    (h : (Artifacts.ofText config text).2 = .ok a) :
    ∃ m ds cat ss, Model.ofText text = .ok (m, ds) ∧
      Catalog.execute? [] (script m []).statements = some cat ∧
      a.schema = Schema.render config (script m []).statements ∧
      a.sources = ss.map (Source.file config) ∧
      List.Forall₂ (fun c s => (Source.ofClass m c).2 = .ok s ∧
        ((s.fields.map FieldDecl.name).Nodup ↔ (c.attributes.map Attribute.name).Nodup) ∧
        FreshAfter (c.attributes.map Attribute.name) (s.fields.map FieldDecl.name) ∧
        ∃ t, cat.table? c.name = some t ∧ t.columnNames.Nodup) m.classes ss := by
  obtain ⟨d, hd, -, hmodel, hmade⟩ := Artifacts.exists_of_ofText h
  obtain ⟨-, hschema, -⟩ := Artifacts.ofModelAfter_eq_ok_iff.mp hmade
  obtain ⟨cat, hrun, hdesigned, -⟩ := script_designed (Model.wellFormed_empty.readInto d)
  obtain ⟨ss, hss, hsources⟩ := Artifacts.exists_sources_of_ofText hd h
  refine ⟨_, _, cat, ss, hmodel, hrun, hschema, hsources, ?_⟩
  have hmem := (List.forall₂_and_left _ ss).mpr ⟨fun _ hc => hc, hss⟩
  refine hmem.imp fun c s ⟨hc, hs⟩ => ?_
  have hfresh := freshAfter_fields hs
  exact ⟨hs, hfresh.nodup_iff, hfresh, design _ c, hdesigned.table?_eq c hc,
    nodup_columnNames_design _ c⟩

/-- A diagram of a twin, which has two attributes of one name and another one of the name that the
field for its sibling wants. -/
def twins : Description where
  nodes := [{ id := 1, name := "Twin", attributes := "age: int\nage: String\ntwin: int" }]
  edges := [{ start := some 1, stop := some 1, type := some "AggregationEdge" }]

/-- The twins as a text. -/
def twinsText : String :=
  "\x7b\"nodes\":[\x7b\"id\":1,\"name\":\"Twin\",
    \"attributes\":\"age: int\\nage: String\\ntwin: int\"\x7d],
    \"edges\":[\x7b\"start\":1,\"end\":1,\"type\":\"AggregationEdge\"\x7d]\x7d"

set_option maxRecDepth 2000 in
theorem ofText_twinsText : Description.ofText twinsText = .ok twins :=
  Description.ofText_ofList (by decide +kernel)

/-- The twin as a class. -/
def twin : ClassDecl where
  name := "Twin"
  attributes := [⟨"age", "int", .priv⟩, ⟨"age", "String", .priv⟩, ⟨"twin", "int", .priv⟩]

theorem classes_twins : (twins.readInto {}).model.classes = [twin] := by decide +kernel

theorem readInto_twins : (twins.readInto {}).failure = none := by decide +kernel

/-- The source of the twin declares two fields of one name. The field for the sibling gives way. -/
theorem fields_twins :
    ∃ (a : Artifacts) (s : Source), (Artifacts.ofText {} twinsText).2 = .ok a ∧
      a.sources = [s.file {}] ∧
      s.fields.map FieldDecl.name = ["age", "age", "twin", "twin2"] := by
  obtain ⟨a, ha⟩ := Artifacts.exists_ofText_of_readInto {} ofText_twinsText readInto_twins
  obtain ⟨ss, hss, hsources⟩ := Artifacts.exists_sources_of_ofText ofText_twinsText ha
  rw [classes_twins] at hss
  obtain ⟨s, hs, rfl⟩ : ∃ s, (Source.ofClass (twins.readInto {}).model twin).2 = .ok s ∧ ss = [s] := by
    cases hss with
    | cons hs hrest =>
      cases hrest
      exact ⟨_, hs, rfl⟩
  obtain ⟨creation, rfl⟩ := Source.eq_build_of_ofClass hs
  refine ⟨a, _, ha, hsources, ?_⟩
  rw [Source.build, List.map_append, List.map_map, List.map_map]
  decide +kernel

/-- The fields of the twin have no names of their own, but the columns of its table have. -/
theorem nodup_fields_iff_twins :
    ∃ (a : Artifacts) (s : Source) (t : StoredTable),
      (Artifacts.ofText {} twinsText).2 = .ok a ∧ a.sources = [s.file {}] ∧
      ¬(s.fields.map FieldDecl.name).Nodup ∧ t.name = "Twin" ∧ t.columnNames.Nodup := by
  obtain ⟨a, ha⟩ := Artifacts.exists_ofText_of_readInto {} ofText_twinsText readInto_twins
  obtain ⟨m, ds, cat, ss, hm, -, -, hsources, hall⟩ := nodup_fields_iff ha
  rw [Model.ofText_of_readInto ofText_twinsText readInto_twins] at hm
  obtain ⟨rfl, -⟩ := Prod.mk.inj (Except.ok.inj hm)
  rw [classes_twins] at hall
  cases hall with
  | cons hfirst hrest =>
    cases hrest
    obtain ⟨-, hiff, -, t, ht, hcolumns⟩ := hfirst
    refine ⟨a, _, t, ha, hsources, ?_, (Catalog.mem_of_table? ht).2, hcolumns⟩
    rw [hiff]
    decide

end Blueprint

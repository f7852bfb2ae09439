import Blueprint.Proofs.Artifacts
import Blueprint.Proofs.Model.Edges
import Blueprint.Proofs.Model.Labels
import Blueprint.Proofs.Skeleton.Treatment

/-!
# Where lists stand

The label at the end of an edge says whether more than one object may stand there. This is all that
decides where the class sources have lists: the field for the edge, the parameters for it in the
constructor of its class and of the classes that extend it, and the lines that make its content all
have a list if the label says many, and a single object if it does not.
-/

namespace Blueprint

open Skeleton

/-- The type of what stands at the end of an edge that leads to a class. -/
def Edge.contentType (e : Edge) (arrival : String) : String :=
  if e.SaysMany then "List<" ++ arrival ++ ">" else arrival

/-- The lines that make what stands at the end of an edge, if a class owns it under a name. -/
def Edge.makingLines (e : Edge) (arrival name : String) : List String :=
  if e.SaysMany then
    ["this." ++ name ++ " = new ArrayList<" ++ arrival ++ ">();",
      "this." ++ name ++ ".add(new " ++ arrival ++ "());"]
  else ["this." ++ name ++ " = new " ++ arrival ++ "();"]

/-- How many fields a class has for the edges before one. -/
def Description.fieldsBefore (d : Description) (i : Nat) (className : String) : Nat :=
  (d.keptAssociations (d.edges.take i)).countP fun a =>
    a.departure = className ∧ a.kind ≠ .generalization

variable {d : Description} {e : Edge} {a : Association} {f : Field}

theorem isMany_iff_of_kept {before : List Edge} (h : d.kept? before e = some a) :
    a.isMany ↔ e.SaysMany := by
  obtain ⟨l, hlink, hkept⟩ := Option.bind_eq_some_iff.mp h
  obtain ⟨rfl, -, -⟩ := Description.classNode?_of_link? hlink
  split at hkept
  · exact absurd hkept (by simp)
  · obtain rfl := Option.some.inj hkept
    exact Multiplicity.isMany_ofLabel_iff

theorem type_of_kept {before : List Edge} (h : d.kept? before e = some a)
    (hf : f.relation = (a.kind, a.arrival, a.isMany)) : f.type = e.contentType a.arrival := by
  obtain ⟨-, hrest⟩ := Prod.mk.inj hf
  obtain ⟨helement, hmany⟩ := Prod.mk.inj hrest
  simp only [Field.type, Edge.contentType, helement, hmany, isMany_iff_of_kept h]

theorem creationLines_of_kept {before : List Edge} (h : d.kept? before e = some a)
    (hf : f.relation = (a.kind, a.arrival, a.isMany)) :
    f.creationLines = e.makingLines a.arrival f.name := by
  obtain ⟨-, hrest⟩ := Prod.mk.inj hf
  obtain ⟨helement, hmany⟩ := Prod.mk.inj hrest
  simp only [Field.creationLines, Edge.makingLines, helement, hmany, isMany_iff_of_kept h]

/-- The line of a field stands on the page of its class, behind the lines of the attributes. -/
theorem getElem?_fields_of_shows {config : Config} {m : Model} {c : ClassDecl} {p : Page config}
    {n : Nat} (h : p.Shows m c) (hf : (fields m c)[n]? = some f) :
    p.fields[c.attributes.length + n]? = some ("private " ++ f.type ++ " " ++ f.name ++ ";") := by
  have hlength : (c.attributes.map fun b =>
      b.visibility.keyword ++ " " ++ b.type ++ " " ++ b.name ++ ";").length =
      c.attributes.length := List.length_map _
  rw [h.fields_eq, List.getElem?_append_right (by rw [hlength]; exact Nat.le_add_right _ _),
    hlength, Nat.add_sub_cancel_left, List.getElem?_map, hf, Option.map_some]

/-- Where a text has artifacts, every edge that is kept and is no generalization has a field in the
class that it leaves, and a line for it on the page of the class, behind those for the attributes and
for the edges before it. The field is for a list if the label at the end of the edge says many, and
for a single object otherwise. So are the parameters for an aggregation, in the constructor of the
class and in those of the classes that extend it, and so is what the body of the constructor makes
for a composition. -/
theorem Artifacts.treats_of_kept {config : Config} {text : String} {made : Artifacts}
    (h : (Artifacts.ofText config text).2 = .ok made) :
    ∃ (d : Description) (m : Model) (ds : List Diagnostic) (pages : List (Page config)),
      Description.ofText text = .ok d ∧ Model.ofText text = .ok (m, ds) ∧
      m.associations = d.keptAssociations d.edges ∧ pages.map Page.file = made.sources ∧
      List.Forall₂ (fun c p => p.Shows m c) m.classes pages ∧
      ∀ i e a, d.edges[i]? = some e → d.kept? (d.edges.take i) e = some a →
        a.kind ≠ .generalization →
        ∃ c ∈ m.classes, ∃ p ∈ pages, ∃ k name, c.name = a.departure ∧
          p.file.className = a.departure ∧
          p.fields[c.attributes.length + d.fieldsBefore i a.departure]? =
            some ("private " ++ e.contentType a.arrival ++ " " ++ name ++ ";") ∧
          p.Treats m pages k a.kind name (e.contentType a.arrival)
            (e.makingLines a.arrival name) := by
  obtain ⟨d, hd, hread, hmodel, -⟩ := exists_of_ofText h
  obtain ⟨pages, hfiles, hpages⟩ := exists_pages_of_ofText hd h
  set m := (d.readInto {}).model with hm
  have hwell : m.WellFormed := Model.wellFormed_empty.readInto d
  obtain ⟨extended, hedges⟩ := Description.exists_edgesRead hread
  refine ⟨d, m, _, pages, hd, hmodel, hedges.associations_eq, hfiles, hpages, ?_⟩
  intro i e a he ha hkind
  obtain ⟨after, hafter⟩ := Description.keptAssociations_eq_append he ha
  have hassociations := hedges.associations_eq.trans hafter
  have hmem : a ∈ m.associations := by
    rw [hassociations]
    exact List.mem_append_right _ List.mem_cons_self
  obtain ⟨c, hc, hname⟩ := List.mem_map.mp (hwell.departure_mem a hmem)
  obtain ⟨p, hp, hshows⟩ := exists_left_of_mem hpages.flip hc
  obtain ⟨f, hplace, hrelation⟩ := exists_field_of_association m c hassociations hname.symm hkind
  have hf : f ∈ fields m c := List.mem_of_getElem? hplace
  obtain ⟨k, htreats⟩ := treats_of_mem_fields hwell.names_nodup hpages hc hshows hf
  have hdeclared := getElem?_fields_of_shows hshows hplace
  rw [(Prod.mk.inj hrelation).1, type_of_kept ha hrelation, creationLines_of_kept ha hrelation]
    at htreats
  rw [type_of_kept ha hrelation, hname] at hdeclared
  exact ⟨c, hc, p, hp, k, f.name, hname, hshows.className_eq.trans hname, hdeclared, htreats⟩

/-- An orchard has trees and owns baskets, and one basket apart. A vineyard is an orchard. -/
def grove : Description where
  nodes := [{ id := 1, name := "Orchard", attributes := "area: int" }, { id := 2, name := "Tree" },
    { id := 3, name := "Basket" }, { id := 4, name := "Vineyard" }]
  edges := [
    { start := some 1, stop := some 2, type := some "AggregationEdge", endLabel := some " 0..* " },
    { start := some 4, stop := some 1, type := some "GeneralizationEdge", endLabel := some "*" },
    { start := some 1, stop := some 3, type := some "Composition", endLabel := some "*" },
    { start := some 1, stop := some 3, type := some "Composition", endLabel := some "0..1" }]

/-- The orchard and the vineyard as a text. -/
def groveText : String :=
  "\x7b\"nodes\":[\x7b\"id\":1,\"name\":\"Orchard\",\"attributes\":\"area: int\"\x7d,
    \x7b\"id\":2,\"name\":\"Tree\"\x7d,\x7b\"id\":3,\"name\":\"Basket\"\x7d,
    \x7b\"id\":4,\"name\":\"Vineyard\"\x7d],\"edges\":[
    \x7b\"start\":1,\"end\":2,\"type\":\"AggregationEdge\",\"endLabel\":\" 0..* \"\x7d,
    \x7b\"start\":4,\"end\":1,\"type\":\"GeneralizationEdge\",\"endLabel\":\"*\"\x7d,
    \x7b\"start\":1,\"end\":3,\"type\":\"Composition\",\"endLabel\":\"*\"\x7d,
    \x7b\"start\":1,\"end\":3,\"type\":\"Composition\",\"endLabel\":\"0..1\"\x7d]\x7d"

set_option maxRecDepth 2000 in
theorem ofText_groveText : Description.ofText groveText = .ok grove :=
  Description.ofText_ofList (by decide +kernel)

/-- The classes of the grove are orchard, tree, basket and vineyard, of which the last one extends the
first. -/
theorem classes_grove : (grove.readInto {}).model.classes =
    [{ name := "Orchard", attributes := [⟨"area", "int", .priv⟩] }, { name := "Tree" },
      { name := "Basket" }, { name := "Vineyard", superclass := some "Orchard" }] := by
  decide +kernel

/-- A vineyard hands a list of trees to the orchard, which makes its list of baskets itself. -/
theorem Artifacts.treats_of_kept_grove :
    ∃ (made : Artifacts) (pages : List (Page {})), (Artifacts.ofText {} groveText).2 = .ok made ∧
      pages.map Page.file = made.sources ∧
      (∃ p ∈ pages, ∃ q ∈ pages, ∃ (k kb : Constructor) (n : Nat)
          (name parameter argument : String) (arguments : List String),
        p.file.className = "Orchard" ∧ q.file.className = "Vineyard" ∧
        p.fields[1]? = some ("private " ++ "List<Tree>" ++ " " ++ name ++ ";") ∧
        p.Constructs k ∧ k.assignments[n]? = some (name, parameter) ∧
        k.typeOf? parameter = some "List<Tree>" ∧
        q.Constructs kb ∧ kb.superArguments = some arguments ∧ arguments[n]? = some argument ∧
        kb.typeOf? argument = some "List<Tree>") ∧
      ∃ p ∈ pages, ∃ (name : String) (before after : List String),
        p.file.className = "Orchard" ∧
        p.fields[2]? = some ("private " ++ "List<Basket>" ++ " " ++ name ++ ";") ∧
        p.body = before ++ ["this." ++ name ++ " = new ArrayList<" ++ "Basket" ++ ">();",
          "this." ++ name ++ ".add(new " ++ "Basket" ++ "());"] ++ after := by
  have hread : (grove.readInto {}).failure = none := by decide +kernel
  obtain ⟨made, hmade⟩ := exists_ofText_of_readInto {} ofText_groveText hread
  obtain ⟨d, m, ds, pages, hd, hm, -, hfiles, hpages, htreats⟩ := treats_of_kept hmade
  obtain rfl : grove = d := Except.ok.inj (ofText_groveText.symm.trans hd)
  rw [Model.ofText_of_readInto ofText_groveText hread] at hm
  obtain ⟨rfl, -⟩ := Prod.mk.inj (Except.ok.inj hm)
  have hattributes : ∀ c ∈ (grove.readInto {}).model.classes, c.name = "Orchard" →
      c.attributes.length = 1 := by
    rw [classes_grove]
    decide
  have hvineyard : { name := "Vineyard", superclass := some "Orchard" } ∈
      (grove.readInto {}).model.classes := by
    rw [classes_grove]
    decide
  let tree : Edge :=
    { start := some 1, stop := some 2, type := some "AggregationEdge", endLabel := some " 0..* " }
  let basket : Edge :=
    { start := some 1, stop := some 3, type := some "Composition", endLabel := some "*" }
  have htree : tree.SaysMany := ⟨_, rfl, by decide⟩
  have hbasket : basket.SaysMany := ⟨_, rfl, by decide⟩
  refine ⟨made, pages, hmade, hfiles, ?_, ?_⟩
  · obtain ⟨c, hc, p, hp, k, name, hname, hclass, hfield, htreated⟩ :=
      htreats 0 tree (tree.association "Orchard" "Tree") rfl (by decide +kernel) (by decide)
    have hplace : c.attributes.length + grove.fieldsBefore 0 "Orchard" = 1 := by
      rw [hattributes c hc hname]
      decide +kernel
    have htype : tree.contentType "Tree" = "List<Tree>" := if_pos htree
    obtain ⟨n, parameter, hassigned, hparameter, hhanded⟩ := htreated.aggregation rfl
    obtain ⟨q, hq, kb, arguments, argument, hheir, hkb, hsome, hargument, htype'⟩ :=
      hhanded _ hvineyard (congrArg some hclass.symm)
    rw [← htype, ← hplace]
    exact ⟨p, hp, q, hq, k, kb, n, name, parameter, argument, arguments, hclass, hheir, hfield,
      htreated.constructs, hassigned, hparameter, hkb, hsome, hargument, htype'⟩
  · obtain ⟨c, hc, p, hp, k, name, hname, hclass, hfield, htreated⟩ :=
      htreats 2 basket (basket.association "Orchard" "Basket") rfl (by decide +kernel) (by decide)
    have hplace : c.attributes.length + grove.fieldsBefore 2 "Orchard" = 2 := by
      rw [hattributes c hc hname]
      decide +kernel
    have htype : basket.contentType "Basket" = "List<Basket>" := if_pos hbasket
    have hlines : basket.makingLines "Basket" name = ["this." ++ name ++ " = new ArrayList<" ++
        "Basket" ++ ">();", "this." ++ name ++ ".add(new " ++ "Basket" ++ "());"] :=
      if_pos hbasket
    obtain ⟨before, after, hbody⟩ := htreated.composition rfl
    rw [← htype, ← hplace]
    refine ⟨p, hp, name, before, after, hclass, hfield, ?_⟩
    rw [← hlines]
    exact hbody

end Blueprint

import Blueprint.Proofs.Artifacts.Relations
import Blueprint.Proofs.Model.Inheritance

/-!
# Inheritance from the diagram to the sources

What a class extends is said three times: by the edges of a description, by the classes of its model,
and by the texts of the sources. All three say the same. So a circle of edges is not noticed
anywhere on the way, and there is none in the sources that is not in the diagram.
-/

namespace Blueprint

open Relation

/-- The page of a class says that the class extends another one. -/
def Skeleton.Extends {config : Config} (pages : List (Skeleton.Page config)) (name other : String) :
    Prop :=
  ∃ p ∈ pages, p.file.className = name ∧ p.Extends other

/-- A relation leads from a name back to it. -/
def Cyclic (r : String → String → Prop) : Prop := ∃ name, TransGen r name name

/-- The pages of a model say what its classes extend. -/
theorem Skeleton.extends_pages {config : Config} {m : Model} {pages : List (Skeleton.Page config)}
    (h : List.Forall₂ (fun c p => p.Shows m c) m.classes pages) : Extends pages = m.Extends := by
  funext name other
  refine propext ⟨?_, ?_⟩
  · rintro ⟨p, hp, rfl, hextends⟩
    obtain ⟨c, hc, hshows⟩ := exists_left_of_mem h hp
    exact ⟨c, hc, hshows.className_eq.symm, (hshows.extends_iff other).mp hextends⟩
  · rintro ⟨c, hc, rfl, hsuper⟩
    obtain ⟨p, hp, hshows⟩ := exists_left_of_mem h.flip hc
    exact ⟨p, hp, hshows.className_eq, (hshows.extends_iff other).mpr hsuper⟩

/-- Going on from a class of a text to what it extends, one comes back to a class that was there
before if and only if the edges lead to a circle, and otherwise to an end before the walk is longer
than there are classes. No class extends itself, but the sources of a text extend each other in a
circle if and only if its edges do. -/
theorem Model.revisits_ofText {text : String} {m : Model} {ds : List Diagnostic}
    (h : ofText text = .ok (m, ds)) :
    ∃ d, Description.ofText text = .ok d ∧
      (∀ c ∈ m.classes, (m.superclassOf c).map ClassDecl.name = d.superclass? d.edges c.name ∧
        m.superclassOf c ≠ some c) ∧
      (∀ c ∈ m.classes, m.Revisits c ↔
        ∃ name, ReflTransGen d.Extends c.name name ∧ TransGen d.Extends name name) ∧
      (∀ c ∈ m.classes, ¬m.Revisits c → m.ancestor? c m.classes.length = none) ∧
      ∀ config, ∃ (a : Artifacts) (pages : List (Skeleton.Page config)),
        (Artifacts.ofText config text).2 = .ok a ∧ pages.map Skeleton.Page.file = a.sources ∧
        List.Forall₂ (fun c p => p.Shows m c) m.classes pages ∧
        (Cyclic (Skeleton.Extends pages) ↔ Cyclic d.Extends) := by
  obtain ⟨d, hd, hread, rfl, -⟩ := exists_of_ofText h
  set m := (d.readInto {}).model with hm
  have hwell : m.WellFormed := wellFormed_empty.readInto d
  have hextends : m.Extends = d.Extends := Description.extends_readInto hread
  have hknown : ∀ c ∈ m.classes, ∀ name, c.superclass = some name → name ∈ m.names := by
    rw [hm, ← readText_of_ofText hd]
    exact superclass_mem_names_readText text
  obtain ⟨extended, hedges⟩ := Description.exists_edgesRead hread
  have hsuper : ∀ c ∈ m.classes,
      (m.superclassOf c).map ClassDecl.name = d.superclass? d.edges c.name := fun c hc =>
    (map_name_superclassOf hwell.names_nodup hknown hc).trans (hedges.superclass_eq c hc)
  refine ⟨d, hd, fun c hc => ⟨hsuper c hc, ?_⟩, ?_, ?_, ?_⟩
  · intro hself
    have hown := hsuper c hc
    rw [hself, Option.map_some] at hown
    exact Description.not_extends_self hread c.name hown.symm
  · intro c hc
    rw [revisits_iff hwell.names_nodup hknown hc, hextends]
  · intro c hc hnever
    by_contra hwalk
    obtain ⟨b, hb⟩ := Option.ne_none_iff_exists'.mp hwalk
    exact hnever (revisits_of_ancestor? hc hb)
  · intro config
    obtain ⟨a, ha⟩ := Artifacts.exists_ofText_of_readInto config hd hread
    obtain ⟨pages, hfiles, hpages⟩ := Artifacts.exists_pages_of_ofText hd ha
    refine ⟨a, pages, ha, hfiles, hpages, ?_⟩
    rw [Skeleton.extends_pages hpages, hextends]

/-- Hens are eggs, eggs are hens, and chicks are hens. -/
def henAndEgg : Description where
  nodes := [{ id := 1, name := "Hen" }, { id := 2, name := "Egg" }, { id := 3, name := "Chick" }]
  edges := [
    { start := some 1, stop := some 2, type := some "GeneralizationEdge" },
    { start := some 2, stop := some 1, type := some "GeneralizationEdge" },
    { start := some 3, stop := some 1, type := some "GeneralizationEdge" }]

/-- Hens, eggs and chicks as a text. -/
def henAndEggText : String :=
  "\x7b\"nodes\":[\x7b\"id\":1,\"name\":\"Hen\"\x7d,\x7b\"id\":2,\"name\":\"Egg\"\x7d,
    \x7b\"id\":3,\"name\":\"Chick\"\x7d],
    \"edges\":[\x7b\"start\":1,\"end\":2,\"type\":\"GeneralizationEdge\"\x7d,
    \x7b\"start\":2,\"end\":1,\"type\":\"GeneralizationEdge\"\x7d,
    \x7b\"start\":3,\"end\":1,\"type\":\"GeneralizationEdge\"\x7d]\x7d"

set_option maxRecDepth 2000 in
theorem ofText_henAndEggText : Description.ofText henAndEggText = .ok henAndEgg :=
  Description.ofText_ofList (by decide +kernel)

/-- Going on from hens leads to eggs and back to hens. -/
theorem Model.revisits_hen :
    ∃ m ds c, ofText henAndEggText = .ok (m, ds) ∧ c ∈ m.classes ∧ c.name = "Hen" ∧
      (m.ancestor? c 1).map ClassDecl.name = some "Egg" ∧ m.ancestor? c 2 = some c ∧
      m.Revisits c := by
  have hread : (henAndEgg.readInto {}).failure = none := by decide +kernel
  have hround : (henAndEgg.readInto {}).model.ancestor? { name := "Hen", superclass := some "Egg" }
      2 = some { name := "Hen", superclass := some "Egg" } := by decide +kernel
  exact ⟨_, _, { name := "Hen", superclass := some "Egg" },
    ofText_of_readInto ofText_henAndEggText hread, by decide +kernel, rfl, by decide +kernel, hround,
    0, 2, _, by decide, rfl, hround⟩

/-- Chicks are not in the circle of hens and eggs, but going on from them leads there. So the sources
extend each other in a circle. -/
theorem Model.revisits_ofText_henAndEgg :
    ∃ (m : Model) (ds : List Diagnostic) (c : ClassDecl) (a : Artifacts)
        (pages : List (Skeleton.Page {})),
      ofText henAndEggText = .ok (m, ds) ∧ c ∈ m.classes ∧ c.name = "Chick" ∧ m.Revisits c ∧
      (Artifacts.ofText {} henAndEggText).2 = .ok a ∧
      pages.map Skeleton.Page.file = a.sources ∧ Skeleton.Extends pages "Hen" "Egg" ∧
      Cyclic (Skeleton.Extends pages) := by
  have hread : (henAndEgg.readInto {}).failure = none := by decide +kernel
  have hmodel := ofText_of_readInto ofText_henAndEggText hread
  obtain ⟨d, hd, -, hrevisits, -, hsources⟩ := revisits_ofText hmodel
  obtain rfl : henAndEgg = d := Except.ok.inj (ofText_henAndEggText.symm.trans hd)
  have hmem : { name := "Chick", superclass := some "Hen" } ∈
      (henAndEgg.readInto {}).model.classes := by decide +kernel
  have hchick : henAndEgg.Extends "Chick" "Hen" := by decide +kernel
  have hhen : henAndEgg.Extends "Hen" "Egg" := by decide +kernel
  have hegg : henAndEgg.Extends "Egg" "Hen" := by decide +kernel
  have hround : TransGen henAndEgg.Extends "Hen" "Hen" := .tail (.single hhen) hegg
  obtain ⟨a, pages, ha, hfiles, hpages, hcyclic⟩ := hsources {}
  have hpage : Skeleton.Extends pages "Hen" "Egg" := by
    rw [Skeleton.extends_pages hpages, Description.extends_readInto hread]
    exact hhen
  exact ⟨_, _, _, a, pages, hmodel, hmem, rfl,
    (hrevisits _ hmem).mpr ⟨"Hen", .single hchick, hround⟩, ha, hfiles, hpage,
    hcyclic.mpr ⟨"Hen", hround⟩⟩

end Blueprint

import Blueprint.Proofs.Model.Edges
import Blueprint.Proofs.Model.Nodes
import Blueprint.Proofs.Naming

/-!
# The order of nodes

Descriptions that list the same nodes in another order are read alike: both or none to the end, into
models with the same classes and the same associations, with the same notes. The classes come in
another order, but they are looked up by their names, and nodes by their ids, so the edges notice
nothing of it.
-/

namespace Blueprint

variable {m m' : Model} {a : Association}

/-- A model with the same associations, and with the same classes in any order. -/
structure Reordered (m m' : Model) : Prop where
  classes_perm : m'.classes.Perm m.classes
  associations_eq : m'.associations = m.associations
  names_nodup : m.names.Nodup

namespace Reordered

theorem names_perm (h : Reordered m m') : m'.names.Perm m.names := h.classes_perm.map _

theorem names_nodup' (h : Reordered m m') : m'.names.Nodup :=
  h.names_perm.nodup_iff.mpr h.names_nodup

theorem class?_eq (h : Reordered m m') : m'.class? = m.class? := by
  funext name
  exact find?_key_perm h.names_nodup h.classes_perm name

theorem superclassOf_eq (h : Reordered m m') : m'.superclassOf = m.superclassOf := by
  funext c
  rw [Model.superclassOf, Model.superclassOf, h.class?_eq]

theorem departing_eq (h : Reordered m m') : m'.departing = m.departing := by
  funext name
  rw [Model.departing, Model.departing, h.associations_eq]

theorem related (h : Reordered m m') (a : Association) :
    Reordered (m.related a) (m'.related a) := by
  refine ⟨?_, ?_, ?_⟩
  · change (m'.classesAfter a).Perm (m.classesAfter a)
    rw [Model.classesAfter, Model.classesAfter]
    split
    · rw [modifyFirst_eq_map h.names_nodup, modifyFirst_eq_map h.names_nodup']
      exact h.classes_perm.map _
    · exact h.classes_perm
  · change m'.associations ++ [a] = m.associations ++ [a]
    rw [h.associations_eq]
  · rw [Model.names_related]
    exact h.names_nodup

end Reordered

/-! ## Edges -/

theorem readEdge_congr {index index' : ClassIndex} (h : ∀ id, index'.lookup id = index.lookup id)
    (extended : List String) (number : Nat) (e : Edge) :
    readEdge index' extended number e = readEdge index extended number e := by
  have hend (place : String) (id : Option Int) :
      readEnd index' number place id = readEnd index number place id := by
    cases id with
    | none => rfl
    | some id => rw [readEnd, readEnd, h]
  rw [readEdge, readEdge, hend, hend]

/-- Edges are read alike into models that differ in the order of their classes. -/
theorem readEdges_reordered {index index' : ClassIndex}
    (hlookup : ∀ id, index'.lookup id = index.lookup id) (hindex : ∀ p ∈ index, p.2 ∈ m.names)
    (h : Reordered m m') (extended : List String) (number : Nat) (es : List Edge) :
    (readEdges index' m' extended number es).journal =
        (readEdges index m extended number es).journal ∧
      Reordered (readEdges index m extended number es).model
        (readEdges index' m' extended number es).model := by
  induction es generalizing m m' extended number with
  | nil => exact ⟨rfl, h⟩
  | cons e es ih =>
    have hread := readEdge_congr hlookup extended number e
    cases hown : readEdge index extended number e with
    | error ds =>
      obtain ⟨hjournal, hmodel⟩ := ih hindex h extended (number + 1)
      simp only [readEdges, hread, hown, Reading.journal_after, Reading.model_after, hjournal]
      exact ⟨trivial, hmodel⟩
    | ok a =>
      -- both ends are classes of either model, so relating them cannot fail
      obtain ⟨hd, ha⟩ := ends_of_readEdge_of_index hindex hown
      have hd' : a.departure ∈ m'.names := h.names_perm.mem_iff.mpr hd
      have ha' : a.arrival ∈ m'.names := h.names_perm.mem_iff.mpr ha
      have hindex' : ∀ p ∈ index, p.2 ∈ (m.related a).names := by
        rw [Model.names_related]
        exact hindex
      obtain ⟨hjournal, hmodel⟩ := ih hindex' (h.related a)
        (if a.kind = .generalization then a.departure :: extended else extended) (number + 1)
      simp only [readEdges, hread, hown, Model.relate_of_mem hd ha, Model.relate_of_mem hd' ha',
        Reading.journal_after, Reading.model_after, hjournal]
      exact ⟨trivial, hmodel⟩

/-! ## Descriptions -/

/-- A description is read to its end if it is of the right kind and its nodes are acceptable. -/
theorem Description.readInto_failure_eq_none_iff {d : Description} :
    (d.readInto m).failure = none ↔ d.kindFailure? = none ∧ Acceptable m.names [] d.nodes := by
  rw [← readNodes_failure_eq_none_iff]
  constructor
  · intro h
    obtain ⟨hnodes, -⟩ := readInto_of_failure_eq_none h
    refine ⟨?_, hnodes⟩
    cases hkind : d.kindFailure? with
    | none => rfl
    | some f =>
      rw [readInto, hkind] at h
      exact absurd h (by simp)
  · rintro ⟨hkind, hnodes⟩
    rw [readInto, hkind]
    exact (d.failure_readParts m).trans hnodes

theorem lookup_readNodes_perm {ns ns' : List Node} (h : Acceptable m.names [] ns)
    (hperm : ns'.Perm ns) (id : Int) :
    (readNodes m [] ns').1.lookup id = (readNodes m [] ns).1.lookup id := by
  obtain ⟨hindex, -⟩ := readNodes_of_failure_eq_none (readNodes_failure_eq_none_iff.mpr h)
  obtain ⟨hindex', -⟩ :=
    readNodes_of_failure_eq_none (readNodes_failure_eq_none_iff.mpr (h.perm hperm))
  have hids : ((ns.filter Node.isClass).map Node.id).Nodup :=
    h.ids_fresh.1.sublist (List.filter_sublist.map _)
  rw [hindex, hindex', lookup_map_nodes, lookup_map_nodes,
    find?_key_perm hids (hperm.filter _)]

/-- A description with its nodes in another order is read to its end as well, into a model with the
same classes and the same associations, and leaves the same notes. -/
theorem Description.readInto_perm {d d' : Description} (hdiagram : d'.diagram = d.diagram)
    (hedges : d'.edges = d.edges) (hnodes : d'.nodes.Perm d.nodes)
    (h : (d.readInto {}).failure = none) :
    (d'.readInto {}).failure = none ∧
      Reordered (d.readInto {}).model (d'.readInto {}).model ∧
      (Journal.diagnostics (d'.readInto {}).journal).Perm
        (Journal.diagnostics (d.readInto {}).journal) := by
  obtain ⟨hkind, hacceptable⟩ := readInto_failure_eq_none_iff.mp h
  have hkind' : d'.kindFailure? = none := by
    rw [kindFailure?, hdiagram]
    exact hkind
  have h' : (d'.readInto {}).failure = none :=
    readInto_failure_eq_none_iff.mpr ⟨hkind', hacceptable.perm hnodes⟩
  obtain ⟨hread, hmodel, hnotes⟩ := readInto_of_failure_eq_none h
  obtain ⟨-, hmodel', hnotes'⟩ := readInto_of_failure_eq_none h'
  obtain ⟨hclasses, hown⟩ := readNodes_of_acceptable hacceptable
  obtain ⟨hclasses', hown'⟩ := readNodes_of_acceptable (hacceptable.perm hnodes)
  -- the nodes make reordered models, and the edges keep them so
  have hreordered :
      Reordered (readNodes {} [] d.nodes).2.model (readNodes {} [] d'.nodes).2.model := by
    refine ⟨?_, ?_, (nodesRead_readNodes hread).names_nodup⟩
    · rw [hclasses, hclasses']
      exact (hnodes.filterMap _).append_left _
    · rw [hclasses, hclasses']
  obtain ⟨hjournal, hlast⟩ := readEdges_reordered (lookup_readNodes_perm hacceptable hnodes)
    (index_readNodes_mem {} [] d.nodes) hreordered [] 0 d.edges
  refine ⟨h', ?_, ?_⟩
  · rw [hmodel, hmodel', hedges]
    exact hlast
  · rw [hnotes, hnotes', hown, hown', hedges, hjournal]
    exact (hnodes.flatMap_right _).append_right _

end Blueprint

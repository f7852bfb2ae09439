import Blueprint.Proofs.Model.Reading

/-!
# Labels do not decide what is read

Which edges become associations, and between which classes, is decided by the ends and the types of
the edges. So descriptions that differ in the labels of their edges and in nothing else are read
alike: both to the end or none, into models with the same classes, with the same notes. Only the
associations carry the labels on, each those of its edge.
-/

namespace Blueprint

/-- Associations of one kind between the same classes. -/
structure Association.SameEnds (a a' : Association) : Prop where
  kind_eq : a'.kind = a.kind
  departure_eq : a'.departure = a.departure
  arrival_eq : a'.arrival = a.arrival

/-- They also agree on whether more than one object may stand at the arrival. -/
structure Association.SameEndsAndMany (a a' : Association) : Prop extends a.SameEnds a' where
  isMany_eq : a'.isMany = a.isMany

/-- Edges of one type between the same nodes. -/
structure Edge.SameEnds (e e' : Edge) : Prop where
  start_eq : e'.start = e.start
  stop_eq : e'.stop = e.stop
  type_eq : e'.type = e.type
  aggregationType_eq : e'.aggregationType = e.aggregationType

/-- The label at the end of an edge says that more than one object may stand there. -/
def Edge.SaysMany (e : Edge) : Prop :=
  ∃ label, e.endLabel = some label ∧ Text.trim label ∈ ["*", "0..*", "1..*"]

instance (e : Edge) : Decidable e.SaysMany :=
  decidable_of_iff (∃ label ∈ e.endLabel, Text.trim label ∈ ["*", "0..*", "1..*"]) Iff.rfl

/-- Edges of one type between the same nodes, whose associations are related whichever classes the
nodes stand for. -/
def Edge.Relabelled (R : Association → Association → Prop) (e e' : Edge) : Prop :=
  e.SameEnds e' ∧ ∀ departure arrival,
    R (e.association departure arrival) (e'.association departure arrival)

/-- Models with the same classes, whose associations are related one by one. -/
structure Relabelled (R : Association → Association → Prop) (m m' : Model) : Prop where
  classes_eq : m'.classes = m.classes
  associations : List.Forall₂ R m.associations m'.associations

variable {R : Association → Association → Prop} {m m' : Model} {a a' : Association} {e e' : Edge}
  {index : ClassIndex}

theorem Edge.SameEnds.association (h : e.SameEnds e') (departure arrival : String) :
    (e.association departure arrival).SameEnds (e'.association departure arrival) := by
  refine ⟨?_, rfl, rfl⟩
  rw [Edge.association, Edge.association, h.type_eq, h.aggregationType_eq]

theorem Edge.SameEnds.relabelled (h : e.SameEnds e') :
    Edge.Relabelled Association.SameEnds e e' := ⟨h, h.association⟩

theorem Multiplicity.isMany_ofLabel_iff {label : Option String} :
    (ofLabel label).isMany ↔ ∃ t, label = some t ∧ Text.trim t ∈ ["*", "0..*", "1..*"] := by
  cases label with
  | none => simp [ofLabel, isMany]
  | some t =>
    simp only [ofLabel, Option.map_some, Option.some.injEq, exists_eq_left', List.mem_cons,
      List.not_mem_nil, or_false]
    split_ifs with h₀ h₁ h₂ h₃ h₄ h₅ <;> simp_all [isMany]

theorem Edge.isMany_association_iff (e : Edge) (departure arrival : String) :
    (e.association departure arrival).isMany ↔ e.SaysMany :=
  Multiplicity.isMany_ofLabel_iff

theorem Edge.SameEnds.relabelled_of_iff (h : e.SameEnds e') (hmany : e.SaysMany ↔ e'.SaysMany) :
    Edge.Relabelled Association.SameEndsAndMany e e' := by
  refine ⟨h, fun departure arrival => ⟨h.association departure arrival, ?_⟩⟩
  rw [Bool.eq_iff_iff, isMany_association_iff, isMany_association_iff, hmany]

/-! ## One edge -/

/-- Edges of one type between the same nodes are both left out, with the same warnings, or become
associations between the same classes. -/
theorem Edge.SameEnds.readEdge_cases (h : e.SameEnds e') (index : ClassIndex)
    (extended : List String) (number : Nat) :
    (∃ ds, readEdge index extended number e = .error ds ∧
      readEdge index extended number e' = .error ds) ∨
    ∃ departure arrival,
      readEdge index extended number e = .ok (e.association departure arrival) ∧
      readEdge index extended number e' = .ok (e'.association departure arrival) := by
  simp only [readEdge, h.start_eq, h.stop_eq]
  cases readEnd index number "start" e.start with
  | error d => cases readEnd index number "end" e.stop <;> exact Or.inl ⟨_, rfl, rfl⟩
  | ok departure =>
    cases readEnd index number "end" e.stop with
    | error d => exact Or.inl ⟨_, rfl, rfl⟩
    | ok arrival =>
      simp only [(h.association departure arrival).kind_eq]
      split
      · exact Or.inr ⟨departure, arrival, rfl, rfl⟩
      · split
        · exact Or.inl ⟨_, rfl, rfl⟩
        · split
          · exact Or.inl ⟨_, rfl, rfl⟩
          · exact Or.inr ⟨departure, arrival, rfl, rfl⟩

namespace Relabelled

theorem names_eq (h : Relabelled R m m') : m'.names = m.names := by
  rw [Model.names, Model.names, h.classes_eq]

/-- Relating the same classes by related associations keeps models relabelled. -/
theorem related (h : Relabelled R m m') (ha : a.SameEnds a') (hR : R a a') :
    Relabelled R (m.related a) (m'.related a') := by
  refine ⟨?_, ?_⟩
  · change m'.classesAfter a' = m.classesAfter a
    rw [Model.classesAfter, Model.classesAfter, h.classes_eq, ha.kind_eq, ha.departure_eq,
      ha.arrival_eq]
  · exact List.rel_append h.associations (.cons hR .nil)

end Relabelled

/-! ## All edges -/

/-- Edges that differ in their labels are read alike into models that do. -/
theorem readEdges_relabelled {es es' : List Edge}
    (hes : List.Forall₂ (Edge.Relabelled R) es es') (hindex : ∀ p ∈ index, p.2 ∈ m.names)
    (h : Relabelled R m m') (extended : List String) (number : Nat) :
    Journal.diagnostics (readEdges index m' extended number es').journal =
        Journal.diagnostics (readEdges index m extended number es).journal ∧
      Relabelled R (readEdges index m extended number es).model
        (readEdges index m' extended number es').model := by
  induction hes generalizing m m' extended number with
  | nil => exact ⟨rfl, h⟩
  | @cons e e' es es' he _ ih =>
    obtain ⟨hends, hR⟩ := he
    rcases hends.readEdge_cases index extended number with
      ⟨ds, hread, hread'⟩ | ⟨departure, arrival, hread, hread'⟩
    · obtain ⟨hnotes, hmodel⟩ := ih hindex h extended (number + 1)
      simp only [readEdges, hread, hread', Reading.journal_after, Reading.model_after,
        Journal.diagnostics_append, hnotes]
      exact ⟨trivial, hmodel⟩
    · -- both ends are classes of either model, so relating them cannot fail
      obtain ⟨hd, ha⟩ := ends_of_readEdge_of_index hindex hread
      obtain ⟨hd', ha'⟩ := ends_of_readEdge_of_index (h.names_eq ▸ hindex) hread'
      have hsame := hends.association departure arrival
      set a := e.association departure arrival with hadef
      have hindex' : ∀ p ∈ index, p.2 ∈ (m.related a).names := by
        rw [Model.names_related]
        exact hindex
      obtain ⟨hnotes, hmodel⟩ := ih hindex' (h.related hsame (hR departure arrival))
        (if a.kind = .generalization then a.departure :: extended else extended) (number + 1)
      simp only [readEdges, hread, hread', Model.relate_of_mem hd ha, Model.relate_of_mem hd' ha',
        hsame.kind_eq, hsame.departure_eq, Reading.journal_after, Reading.model_after,
        Journal.diagnostics_append, hnotes]
      exact ⟨rfl, hmodel⟩

/-! ## Descriptions -/

/-- Descriptions of one kind and with the same nodes, whose edges differ in their labels, are read
alike. Whether a reading ends early is decided before the edges, and why. -/
theorem Description.readInto_relabelled {d d' : Description} (hdiagram : d'.diagram = d.diagram)
    (hnodes : d'.nodes = d.nodes)
    (hedges : List.Forall₂ (Edge.Relabelled R) d.edges d'.edges) :
    (d'.readInto {}).failure = (d.readInto {}).failure ∧
      ((d.readInto {}).failure = none →
        Journal.diagnostics (d'.readInto {}).journal =
            Journal.diagnostics (d.readInto {}).journal ∧
          Relabelled R (d.readInto {}).model (d'.readInto {}).model) := by
  have hfailure : (d'.readInto {}).failure = (d.readInto {}).failure := by
    have hkind : d'.kindFailure? = d.kindFailure? := by rw [kindFailure?, kindFailure?, hdiagram]
    rw [readInto, readInto, hkind]
    cases d.kindFailure? with
    | some f => rfl
    | none =>
      change (d'.readParts {}).failure = (d.readParts {}).failure
      rw [failure_readParts, failure_readParts, hnodes]
  refine ⟨hfailure, fun h => ?_⟩
  obtain ⟨hread, hmodel, hnotes⟩ := readInto_of_failure_eq_none h
  obtain ⟨-, hmodel', hnotes'⟩ := readInto_of_failure_eq_none (hfailure.trans h)
  have hbare : (readNodes {} [] d.nodes).2.model.associations = [] :=
    readNodes_induction (P := fun m => m.associations = []) rfl
      (fun m c m' hm _ hadd => by
        obtain ⟨-, rfl⟩ := Model.addClass_eq_ok_iff.mp hadd
        exact hm) [] d.nodes
  have hsame : Relabelled R (readNodes {} [] d.nodes).2.model
      (readNodes {} [] d.nodes).2.model := ⟨rfl, by rw [hbare]; exact .nil⟩
  obtain ⟨hjournal, hlast⟩ :=
    readEdges_relabelled hedges (index_readNodes_mem {} [] d.nodes) hsame [] 0
  rw [hmodel, hmodel', hnotes, hnotes', hnodes, hjournal]
  exact ⟨rfl, hlast⟩

end Blueprint

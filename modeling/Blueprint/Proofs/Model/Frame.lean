import Blueprint.Proofs.Model.Faults
import Blueprint.Proofs.Model.Order

/-!
# What a reading leaves alone

A model in which something is read keeps all that it held, whatever that is: classes that share a
name, or associations that lead nowhere. Classes are looked up by their names, and the first of a
name is meant, but the names that a description brings are new where its nodes can be read. So its
edges never touch a class that was there before.

A description that is read to its end therefore adds to a model what it makes of an empty one. One
that ends at a node adds the classes of the nodes before it.
-/

namespace Blueprint

variable {m m₀ : Model} {a : Association} {index : ClassIndex} {names : List String}
  {seen : List Int} {ns : List Node} {d : Description} {f : Failure}

/-! ## Models next to each other -/

/-- A model, and behind it the classes and the associations of another one. -/
instance : Append Model where
  append m m₀ :=
    { classes := m.classes ++ m₀.classes, associations := m.associations ++ m₀.associations }

@[simp]
theorem Model.classes_append (m m₀ : Model) : (m ++ m₀).classes = m.classes ++ m₀.classes := rfl

@[simp]
theorem Model.associations_append (m m₀ : Model) :
    (m ++ m₀).associations = m.associations ++ m₀.associations := rfl

@[simp]
theorem Model.names_append (m m₀ : Model) : (m ++ m₀).names = m.names ++ m₀.names :=
  List.map_append

theorem modifyFirst_append {α : Type} {p : α → Bool} {g : α → α} {xs : List α}
    (h : ∀ x ∈ xs, p x = false) (ys : List α) :
    modifyFirst p g (xs ++ ys) = xs ++ modifyFirst p g ys := by
  induction xs with
  | nil => rfl
  | cons x xs ih =>
    have hx : ¬p x = true := by simp [h x List.mem_cons_self]
    rw [List.cons_append, modifyFirst, if_neg hx, ih fun y hy => h y (List.mem_cons_of_mem _ hy),
      List.cons_append]

/-- Classes are related behind those of other names. -/
theorem Model.related_append (h : a.departure ∉ m.names) :
    (m ++ m₀).related a = m ++ m₀.related a := by
  have hclasses : (m ++ m₀).classesAfter a = m.classes ++ m₀.classesAfter a := by
    rw [classesAfter, classesAfter]
    split
    · refine modifyFirst_append (fun c hc => ?_) m₀.classes
      exact beq_eq_false_iff_ne.mpr fun hname => h (List.mem_map.mpr ⟨c, hc, hname⟩)
    · rfl
  have hassociations : (m ++ m₀).associations ++ [a] = m.associations ++ (m₀.associations ++ [a]) :=
    List.append_assoc _ _ _
  rw [related, hclasses, hassociations]
  rfl

/-- Edges between classes of new names are read into a model as they are into one with only these
classes. -/
theorem readEdges_append (hin : ∀ p ∈ index, p.2 ∈ m₀.names) (hout : ∀ p ∈ index, p.2 ∉ m.names)
    (extended : List String) (number : Nat) (es : List Edge) :
    (readEdges index (m ++ m₀) extended number es).journal =
        (readEdges index m₀ extended number es).journal ∧
      (readEdges index (m ++ m₀) extended number es).model =
        m ++ (readEdges index m₀ extended number es).model := by
  induction es generalizing m₀ extended number with
  | nil => exact ⟨rfl, rfl⟩
  | cons e es ih =>
    cases hread : readEdge index extended number e with
    | error ds =>
      obtain ⟨hjournal, hmodel⟩ := ih hin extended (number + 1)
      simp only [readEdges, hread, Reading.journal_after, Reading.model_after, hjournal, hmodel,
        and_self]
    | ok a =>
      -- both ends are found behind the classes that were there before
      obtain ⟨hd, ha⟩ := ends_of_readEdge_of_index hin hread
      obtain ⟨hnew, -⟩ := ends_of_readEdge_of_index (P := (· ∉ m.names)) hout hread
      have hd' : a.departure ∈ (m ++ m₀).names := by simp [hd]
      have ha' : a.arrival ∈ (m ++ m₀).names := by simp [ha]
      have hin' : ∀ p ∈ index, p.2 ∈ (m₀.related a).names := by
        rw [Model.names_related]
        exact hin
      obtain ⟨hjournal, hmodel⟩ := ih hin'
        (if a.kind = .generalization then a.departure :: extended else extended) (number + 1)
      simp only [readEdges, hread, Model.relate_of_mem hd ha, Model.relate_of_mem hd' ha',
        Model.related_append hnew, Reading.journal_after, Reading.model_after,
        hjournal, hmodel, and_self]

/-! ## Descriptions that are read to their end -/

/-- Nodes can be read next to classes if they can be read alone and bring other names. -/
theorem acceptable_iff_disjoint :
    Acceptable names seen ns ↔ Acceptable [] seen ns ∧ names.Disjoint (classNames ns) := by
  constructor
  · rintro ⟨hids, ⟨hnodup, hdisjoint⟩, hreadable⟩
    exact ⟨⟨hids, ⟨hnodup, List.disjoint_nil_left _⟩, hreadable⟩, hdisjoint⟩
  · rintro ⟨⟨hids, ⟨hnodup, -⟩, hreadable⟩, hdisjoint⟩
    exact ⟨hids, ⟨hnodup, hdisjoint⟩, hreadable⟩

/-- The names of a model in which a description was read. -/
theorem Description.names_readInto (h : (d.readInto m).failure = none) :
    (d.readInto m).model.names = m.names ++ classNames d.nodes := by
  obtain ⟨hnodes, hmodel, -⟩ := readInto_of_failure_eq_none h
  obtain ⟨-, hnames⟩ := readNodes_of_failure_eq_none hnodes
  have hkept := (readEdges_induction
    (P := fun m' => m'.names = (readNodes m [] d.nodes).2.model.names) rfl
    (fun m' a hm' _ _ => m'.names_related.trans hm') (index_readNodes_mem m [] d.nodes) [] 0 d.edges).2
  rw [hmodel, hkept, hnames, classNames]

/-- A description can be read into a model if it can be read into an empty one, where it makes no
class of a name that is taken. -/
theorem Description.readInto_failure_eq_none_iff_disjoint :
    (d.readInto m).failure = none ↔
      (d.readInto {}).failure = none ∧ m.names.Disjoint (d.readInto {}).model.names := by
  have halone : (d.readInto {}).failure = none ↔
      d.kindFailure? = none ∧ Acceptable [] [] d.nodes := readInto_failure_eq_none_iff
  rw [readInto_failure_eq_none_iff, acceptable_iff_disjoint, ← and_assoc, ← halone]
  refine and_congr_right fun h => ?_
  rw [names_readInto h]
  rfl

/-- A description adds to a model what it makes of an empty one. -/
theorem Description.readInto_append (h : (d.readInto m).failure = none) :
    (d.readInto m).model = m ++ (d.readInto {}).model ∧
      Journal.diagnostics (d.readInto m).journal =
        Journal.diagnostics (d.readInto {}).journal := by
  obtain ⟨h₀, -⟩ := readInto_failure_eq_none_iff_disjoint.mp h
  obtain ⟨hnodes, hmodel, hnotes⟩ := readInto_of_failure_eq_none h
  obtain ⟨hnodes₀, hmodel₀, hnotes₀⟩ := readInto_of_failure_eq_none h₀
  obtain ⟨-, hacceptable⟩ := readInto_failure_eq_none_iff.mp h
  obtain ⟨-, hacceptable₀⟩ := readInto_failure_eq_none_iff.mp h₀
  obtain ⟨hclasses, hown⟩ := readNodes_of_acceptable hacceptable
  obtain ⟨hclasses₀, hown₀⟩ := readNodes_of_acceptable hacceptable₀
  obtain ⟨hindex, -⟩ := readNodes_of_failure_eq_none hnodes
  obtain ⟨hindex₀, -⟩ := readNodes_of_failure_eq_none hnodes₀
  -- the nodes make the same index and bring their classes, all of new names
  have hbehind : (readNodes m [] d.nodes).2.model = m ++ (readNodes {} [] d.nodes).2.model := by
    rw [hclasses, hclasses₀]
    exact congrArg (Model.mk _) (List.append_nil _).symm
  have hnew : ∀ p ∈ (readNodes {} [] d.nodes).1, p.2 ∉ m.names := by
    rw [hindex₀]
    intro p hp hold
    obtain ⟨n, hn, rfl⟩ := List.mem_map.mp hp
    exact hacceptable.names_fresh.2 hold (List.mem_map.mpr ⟨n, hn, rfl⟩)
  obtain ⟨hjournal, hedges⟩ :=
    readEdges_append (index_readNodes_mem {} [] d.nodes) hnew [] 0 d.edges
  rw [hmodel, hmodel₀, hnotes, hnotes₀, hbehind, hindex, ← hindex₀, hown, hown₀, hjournal, hedges]
  exact ⟨rfl, rfl⟩

/-! ## Descriptions that end at a node -/

/-- What a reading leaves that ends at a node after others: none of these has a fault, the first
fault of the node is what the reading ends with, and the model has the classes of the others, which
extend nothing. -/
structure EndedAt (m : Model) (before : List Node) (n : Node) (f : Failure) (m' : Model) :
    Prop where
  /-- The nodes before have no fault. -/
  faultless : nodeFaults m.names [] before = []
  /-- The node has one. -/
  fault : (n.faults (m.names ++ classNames before) (before.map Node.id)).head? = some f
  /-- The model has got the classes of the nodes before. -/
  classes_eq : ∃ added, m'.classes = m.classes ++ added ∧
    added.map some = (before.filter Node.isClass).map Node.class? ∧ ∀ c ∈ added, c.superclass = none
  /-- It has got no association. -/
  associations_eq : m'.associations = m.associations

theorem Node.superclass_class? {n : Node} {c : ClassDecl} (h : n.class? = some c) :
    c.superclass = none := by
  rw [class?] at h
  split at h
  · cases hread : n.readClass with
    | mk ds result =>
      rw [hread] at h
      cases result with
      | error f => exact absurd h (by simp [Except.toOption])
      | ok c' => exact Option.some.inj h ▸ (readClass_eq_ok hread).2
  · exact absurd h (by simp)

/-- Nodes of classes that have no faults become classes. -/
theorem map_some_filterMap_class? {ids : List Int} (h : nodeFaults names ids ns = []) :
    (ns.filterMap Node.class?).map some = (ns.filter Node.isClass).map Node.class? := by
  induction ns generalizing names ids with
  | nil => rfl
  | cons n ns ih =>
    rw [nodeFaults_cons, List.append_eq_nil_iff] at h
    cases hclass : n.isClass with
    | false =>
      have hnone : n.class? = none := by simp [Node.class?, hclass]
      rw [List.filterMap_cons_none hnone, List.filter_cons_of_neg (by simp [hclass]), ih h.2]
    | true =>
      obtain ⟨-, c, -, hsome⟩ := n.exists_class?_of_faultless h.1 hclass
      rw [List.filterMap_cons_some hsome, List.filter_cons_of_pos hclass, List.map_cons,
        List.map_cons, hsome, ih h.2]

/-- A description that cannot be read into a model leaves it as it is, if it is of another kind, or
ends at a node. -/
theorem Description.readInto_of_failure (h : (d.readInto m).failure = some f) :
    d.kindFailure? = some f ∧ (d.readInto m).model = m ∨
      d.kindFailure? = none ∧ ∃ before n after, d.nodes = before ++ n :: after ∧
        EndedAt m before n f (d.readInto m).model := by
  rw [readInto] at h ⊢
  cases hkind : d.kindFailure? with
  | some g =>
    rw [hkind] at h
    exact Or.inl ⟨h, rfl⟩
  | none =>
    rw [hkind] at h
    have hnodes : (readNodes m [] d.nodes).2.failure = some f := (d.failure_readParts m).symm.trans h
    have hparts : d.readParts m = (readNodes m [] d.nodes).2 :=
      readParts_of_failure (by rw [hnodes]; rfl)
    obtain ⟨before, n, after, hsplit, hbefore, hfault, hmodel⟩ := readNodes_of_failure hnodes
    refine Or.inr ⟨rfl, before, n, after, hsplit, ?_⟩
    change EndedAt m before n f (d.readParts m).model
    rw [hparts, hmodel]
    refine ⟨hbefore, hfault, ⟨_, rfl, map_some_filterMap_class? hbefore, ?_⟩, rfl⟩
    intro c hc
    obtain ⟨k, -, hk⟩ := List.mem_filterMap.mp hc
    exact Node.superclass_class? hk

end Blueprint

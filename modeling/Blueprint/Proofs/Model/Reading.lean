import Blueprint.Proofs.Model.Operations

/-!
# What a reading does to a model

A reading adds classes that extend nothing, and then relates classes that are there. So whatever
both of these keep is kept by every reading, also by one that ends early.

The index of a reading names no class that is missing from the model. Edges therefore never end a
reading: it ends at a node or not at all.
-/

namespace Blueprint

variable {m : Model} {index : ClassIndex} {seen : List Int} {extended : List String}
  {number : Nat} {name : String}

@[simp]
theorem Reading.model_after (j : Journal) (r : Reading) : (r.after j).model = r.model := rfl

@[simp]
theorem Reading.journal_after (j : Journal) (r : Reading) :
    (r.after j).journal = j ++ r.journal := rfl

/-! ## Nodes -/

/-- A class that is read has the name of its node, and extends nothing yet. -/
theorem Node.readClass_eq_ok {n : Node} {ds : List Diagnostic} {c : ClassDecl}
    (h : n.readClass = (ds, .ok c)) : c.name = Text.trim n.name ∧ c.superclass = none := by
  simp only [readClass] at h
  split at h
  · exact absurd (congrArg Prod.snd h) (by simp)
  · split at h
    · exact absurd (congrArg Prod.snd h) (by simp)
    · next attributes _ =>
      have hresult := congrArg Prod.snd h
      simp only at hresult
      cases hmethods : (Declaration.readMethods (Text.trim n.name) n.methods).2 with
      | error f =>
        rw [hmethods] at hresult
        exact absurd hresult (by simp [Except.map])
      | ok methods =>
        rw [hmethods] at hresult
        rw [← Except.ok.inj hresult]
        exact ⟨rfl, rfl⟩

/-- All that reading a node can do: end the reading, pass the node over, or add a class. -/
theorem readNodes_cons_cases (m : Model) (seen : List Int) (n : Node) (ns : List Node) :
    (∃ j f, readNodes m seen (n :: ns) = ([], { model := m, journal := j, failure := some f })) ∨
    (n.isClass = false ∧ ∃ j, readNodes m seen (n :: ns) =
      ((readNodes m (n.id :: seen) ns).1, (readNodes m (n.id :: seen) ns).2.after j)) ∨
    (n.isClass = true ∧ ∃ j c m', c.name = Text.trim n.name ∧ c.superclass = none ∧
      m.addClass c = .ok m' ∧ readNodes m seen (n :: ns) =
        ((n.id, c.name) :: (readNodes m' (n.id :: seen) ns).1,
          (readNodes m' (n.id :: seen) ns).2.after j)) := by
  rw [readNodes]
  by_cases hseen : n.id ∈ seen
  · rw [if_pos hseen]
    exact Or.inl ⟨_, _, rfl⟩
  · rw [if_neg hseen]
    by_cases hclass : n.isClass = true
    · rw [if_neg (by simp [hclass])]
      cases hread : n.readClass with
      | mk ds result =>
        cases result with
        | error f => exact Or.inl ⟨_, _, rfl⟩
        | ok c =>
          obtain ⟨hname, hsuper⟩ := Node.readClass_eq_ok hread
          cases hadd : m.addClass c with
          | error f =>
            left
            simp only [hadd]
            exact ⟨_, _, rfl⟩
          | ok m' =>
            simp only [hadd]
            exact Or.inr (Or.inr ⟨hclass, _, c, m', hname, hsuper, hadd, rfl⟩)
    · rw [if_pos (by simp [hclass])]
      exact Or.inr (Or.inl ⟨by simpa using hclass, _, rfl⟩)

/-- What adding a class that extends nothing keeps, reading nodes keeps. -/
theorem readNodes_induction {P : Model → Prop} (h : P m)
    (hadd : ∀ m c m', P m → c.superclass = none → m.addClass c = .ok m' → P m')
    (seen : List Int) (ns : List Node) : P (readNodes m seen ns).2.model := by
  induction ns generalizing m seen with
  | nil => exact h
  | cons n ns ih =>
    rcases readNodes_cons_cases m seen n ns with
      ⟨j, f, heq⟩ | ⟨-, j, heq⟩ | ⟨-, j, c, m', -, hsuper, hok, heq⟩
    · rw [heq]
      exact h
    · rw [heq]
      exact ih h _
    · rw [heq]
      exact ih (hadd m c m' h hsuper hok) _

theorem names_subset_readNodes (m : Model) (seen : List Int) (ns : List Node) :
    m.names ⊆ (readNodes m seen ns).2.model.names := by
  refine readNodes_induction (P := fun m' => m.names ⊆ m'.names) (List.Subset.refl _) ?_ seen ns
  intro m₁ c m₂ hsub _ hadd name hname
  obtain ⟨-, rfl⟩ := Model.addClass_eq_ok_iff.mp hadd
  rw [Model.names_append_singleton]
  exact List.mem_append_left _ (hsub hname)

/-- The index names classes of the model. -/
theorem index_readNodes_mem (m : Model) (seen : List Int) (ns : List Node) :
    ∀ p ∈ (readNodes m seen ns).1, p.2 ∈ (readNodes m seen ns).2.model.names := by
  induction ns generalizing m seen with
  | nil => exact fun p hp => absurd hp List.not_mem_nil
  | cons n ns ih =>
    rcases readNodes_cons_cases m seen n ns with
      ⟨j, f, heq⟩ | ⟨-, j, heq⟩ | ⟨-, j, c, m', -, -, hadd, heq⟩
    · rw [heq]
      exact fun p hp => absurd hp List.not_mem_nil
    · rw [heq]
      exact ih m _
    · rw [heq]
      intro p hp
      rcases List.mem_cons.mp hp with rfl | hp
      · obtain ⟨-, rfl⟩ := Model.addClass_eq_ok_iff.mp hadd
        refine names_subset_readNodes _ _ _ ?_
        simp [Model.names_append_singleton]
      · exact ih m' _ p hp

/-- Where all nodes are read, the index holds every node of a class, and the model has got a class
of its name. -/
theorem readNodes_of_failure_eq_none {ns : List Node}
    (h : (readNodes m seen ns).2.failure = none) :
    (readNodes m seen ns).1 = (ns.filter Node.isClass).map (fun n => (n.id, Text.trim n.name)) ∧
      (readNodes m seen ns).2.model.names =
        m.names ++ (ns.filter Node.isClass).map fun n => Text.trim n.name := by
  induction ns generalizing m seen with
  | nil => exact ⟨rfl, (List.append_nil _).symm⟩
  | cons n ns ih =>
    rcases readNodes_cons_cases m seen n ns with
      ⟨j, f, heq⟩ | ⟨hclass, j, heq⟩ | ⟨hclass, j, c, m', hname, -, hadd, heq⟩
    · rw [heq] at h
      exact absurd h (by simp)
    · rw [heq] at h ⊢
      rw [List.filter_cons_of_neg (by simp [hclass])]
      exact ih h
    · rw [heq] at h ⊢
      obtain ⟨hindex, hnames⟩ := ih h
      obtain ⟨-, rfl⟩ := Model.addClass_eq_ok_iff.mp hadd
      rw [List.filter_cons_of_pos hclass]
      constructor
      · rw [hindex, hname, List.map_cons]
      · rw [Reading.model_after, hnames, Model.names_append_singleton, List.map_cons, ← hname,
          List.append_assoc, List.singleton_append]

/-! ## Edges -/

theorem mem_index_of_readEnd {place : String} {id : Option Int}
    (h : readEnd index number place id = .ok name) : ∃ p ∈ index, p.2 = name := by
  cases id with
  | none => exact absurd h (by simp [readEnd])
  | some id =>
    cases hlookup : index.lookup id with
    | none => exact absurd h (by simp [readEnd, hlookup])
    | some found =>
      simp only [readEnd, hlookup] at h
      obtain ⟨l₁, l₂, rfl, -⟩ := List.lookup_eq_some_iff.mp hlookup
      exact ⟨(id, found), by simp, Except.ok.inj h⟩

/-- The ends of an association that is read are those of its edge. -/
theorem ends_of_readEdge {e : Edge} {a : Association}
    (h : readEdge index extended number e = .ok a) :
    readEnd index number "start" e.start = .ok a.departure ∧
      readEnd index number "end" e.stop = .ok a.arrival := by
  cases hstart : readEnd index number "start" e.start with
  | error d =>
    cases hstop : readEnd index number "end" e.stop <;>
      exact absurd h (by simp [readEdge, hstart, hstop])
  | ok departure =>
    cases hstop : readEnd index number "end" e.stop with
    | error d => exact absurd h (by simp [readEdge, hstart, hstop])
    | ok arrival =>
      simp only [readEdge, hstart, hstop] at h
      have ha : e.association departure arrival = a := by
        split at h
        · exact Except.ok.inj h
        · split at h
          · exact absurd h (by simp)
          · split at h
            · exact absurd h (by simp)
            · exact Except.ok.inj h
      rw [← ha]
      exact ⟨rfl, rfl⟩

/-- What is true of the names in the index is true of both ends of an association that is read. -/
theorem ends_of_readEdge_of_index {P : String → Prop} {e : Edge} {a : Association}
    (hindex : ∀ p ∈ index, P p.2) (h : readEdge index extended number e = .ok a) :
    P a.departure ∧ P a.arrival := by
  obtain ⟨hstart, hstop⟩ := ends_of_readEdge h
  obtain ⟨p, hp, hdeparture⟩ := mem_index_of_readEnd hstart
  obtain ⟨q, hq, harrival⟩ := mem_index_of_readEnd hstop
  exact ⟨hdeparture ▸ hindex p hp, harrival ▸ hindex q hq⟩

/-- All that reading an edge can do: leave it out, or relate two classes of the model. -/
theorem readEdges_cons_cases (hindex : ∀ p ∈ index, p.2 ∈ m.names) (extended : List String)
    (number : Nat) (e : Edge) (es : List Edge) :
    (∃ ds, readEdge index extended number e = .error ds ∧
      readEdges index m extended number (e :: es) =
        (readEdges index m extended (number + 1) es).after (.ofDiagnostics ds)) ∨
    ∃ j a, Journal.diagnostics j = [] ∧ readEdge index extended number e = .ok a ∧
      a.departure ∈ m.names ∧ a.arrival ∈ m.names ∧ readEdges index m extended number (e :: es) =
        (readEdges index (m.related a)
          (if a.kind = .generalization then a.departure :: extended else extended)
          (number + 1) es).after j := by
  cases hread : readEdge index extended number e with
  | error ds =>
    left
    simp only [readEdges, hread]
    exact ⟨ds, rfl, rfl⟩
  | ok a =>
    right
    obtain ⟨hd, ha⟩ := ends_of_readEdge_of_index hindex hread
    simp only [readEdges, hread, Model.relate_of_mem hd ha]
    exact ⟨_, a, rfl, rfl, hd, ha, rfl⟩

/-- Edges never end a reading, and what relating two classes keeps, reading edges keeps. -/
theorem readEdges_induction {P : Model → Prop} (h : P m)
    (hrelate : ∀ m a, P m → a.departure ∈ m.names → a.arrival ∈ m.names → P (m.related a))
    (hindex : ∀ p ∈ index, p.2 ∈ m.names) (extended : List String) (number : Nat)
    (es : List Edge) :
    (readEdges index m extended number es).failure = none ∧
      P (readEdges index m extended number es).model := by
  induction es generalizing m extended number with
  | nil => exact ⟨rfl, h⟩
  | cons e es ih =>
    rcases readEdges_cons_cases hindex extended number e es with
      ⟨ds, -, heq⟩ | ⟨j, a, -, -, hd, ha, heq⟩
    · rw [heq]
      exact ih h hindex _ _
    · rw [heq]
      refine ih (hrelate m a h hd ha) ?_ _ _
      rw [Model.names_related]
      exact hindex

theorem failure_readEdges (hindex : ∀ p ∈ index, p.2 ∈ m.names) (extended : List String)
    (number : Nat) (es : List Edge) : (readEdges index m extended number es).failure = none :=
  (readEdges_induction (P := fun _ => True) trivial (fun _ _ _ _ _ => trivial) hindex extended
    number es).1

/-! ## Descriptions -/

/-- Only nodes make a reading fail. -/
theorem Description.failure_readParts (d : Description) (m : Model) :
    (d.readParts m).failure = (readNodes m [] d.nodes).2.failure := by
  have hedges := failure_readEdges (index_readNodes_mem m [] d.nodes) [] 0 d.edges
  simp only [readParts]
  cases hnodes : (readNodes m [] d.nodes).2.failure with
  | some f => simp only [Option.isSome_some, if_true, hnodes]
  | none => simp only [Option.isSome_none, Bool.false_eq_true, if_false, hedges]

/-- What both operations of a reading keep, every reading keeps, whether it ends early or not. -/
theorem Description.readInto_induction {P : Model → Prop} (d : Description) (h : P m)
    (hadd : ∀ m c m', P m → c.superclass = none → m.addClass c = .ok m' → P m')
    (hrelate : ∀ m a, P m → a.departure ∈ m.names → a.arrival ∈ m.names → P (m.related a)) :
    P (d.readInto m).model := by
  rw [readInto]
  cases d.kindFailure? with
  | some f => exact h
  | none =>
    have hnodes := readNodes_induction h hadd [] d.nodes
    obtain ⟨-, hedges⟩ :=
      readEdges_induction hnodes hrelate (index_readNodes_mem m [] d.nodes) [] 0 d.edges
    change P (d.readParts m).model
    simp only [readParts]
    split
    · exact hnodes
    · split
      · exact hedges
      · exact hedges

/-- A reading that ends at a node comes to no edge. -/
theorem Description.readParts_of_failure {d : Description}
    (h : (readNodes m [] d.nodes).2.failure.isSome) :
    d.readParts m = (readNodes m [] d.nodes).2 := if_pos h

/-- After all nodes, a reading reads all edges. -/
theorem Description.readParts_of_failure_eq_none {d : Description}
    (h : (readNodes m [] d.nodes).2.failure = none) :
    let nodes := readNodes m [] d.nodes
    let edges := readEdges nodes.1 nodes.2.model [] 0 d.edges
    ∃ j, Journal.diagnostics j =
        Journal.diagnostics nodes.2.journal ++ Journal.diagnostics edges.journal ∧
      d.readParts m = { edges with journal := j } := by
  intro nodes edges
  have hnodes : ¬nodes.2.failure.isSome := by simp [nodes, h]
  have hedges : ¬edges.failure.isSome := by
    have hnone : edges.failure = none :=
      failure_readEdges (index_readNodes_mem m [] d.nodes) [] 0 d.edges
    simp [hnone]
  exact ⟨_, by simp [nodes, edges], (if_neg hnodes).trans (if_neg hedges)⟩

/-- A reading that does not end early reads all nodes, then all edges. -/
theorem Description.readInto_of_failure_eq_none {d : Description}
    (h : (d.readInto m).failure = none) :
    let nodes := readNodes m [] d.nodes
    let edges := readEdges nodes.1 nodes.2.model [] 0 d.edges
    nodes.2.failure = none ∧ (d.readInto m).model = edges.model ∧
      Journal.diagnostics (d.readInto m).journal =
        Journal.diagnostics nodes.2.journal ++ Journal.diagnostics edges.journal := by
  intro nodes edges
  rw [readInto] at h ⊢
  cases hkind : d.kindFailure? with
  | some f =>
    rw [hkind] at h
    exact absurd h (by simp)
  | none =>
    simp only [hkind] at h ⊢
    have hnodes : nodes.2.failure = none := (d.failure_readParts m).symm.trans h
    obtain ⟨j, hj, hparts⟩ := readParts_of_failure_eq_none hnodes
    rw [hparts, Journal.diagnostics_within, hj]
    exact ⟨hnodes, rfl, rfl⟩

/-! ## Texts -/

/-- A text holds what is read if its characters are read to their end. A literal text is given by its
characters, so these can be read without taking it apart. -/
theorem Description.ofText_ofList {cs : List Char} {d : Description}
    (hread : (shape.read ⟨{}, cs⟩).toOption.map (fun r => (r.1, r.2.rest)) = some (d, [])) :
    ofText (String.ofList cs) = .ok d := by
  rw [ofText, Json.Reader.run?, Json.Cursor.start, String.toList_ofList]
  cases hresult : shape.read ⟨{}, cs⟩ with
  | error e =>
    rw [hresult] at hread
    exact absurd hread (by simp [Except.toOption])
  | ok r =>
    obtain ⟨d', p, rest⟩ := r
    rw [hresult] at hread
    obtain ⟨rfl, rfl⟩ : d' = d ∧ rest = [] := by simpa [Except.toOption] using hread
    rfl

/-- Reading a text is reading the description that it holds. -/
theorem Model.readText_of_ofText {text : String} {d : Description}
    (h : Description.ofText text = .ok d) (m : Model) : m.readText text = d.readInto m := by
  rw [readText, h]

/-- A text that is read to its end holds a description that is. -/
theorem Model.exists_of_readText {text : String} (h : (m.readText text).failure = none) :
    ∃ d, Description.ofText text = .ok d ∧ m.readText text = d.readInto m := by
  cases hd : Description.ofText text with
  | error f =>
    rw [readText, hd] at h
    exact absurd h (by simp)
  | ok d => exact ⟨d, rfl, readText_of_ofText hd m⟩

end Blueprint

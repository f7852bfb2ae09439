import Blueprint.Proofs.Declaration.Seams
import Blueprint.Proofs.Model.Nodes
import Mathlib.Data.Set.Function

/-!
# Node ids are only references

Edges refer to nodes by their ids, and no two nodes may share one. Nothing else is made of an id:
it is not compared for size, and it is no place in a list. So the ids of a description may be
replaced by others, as long as different ones stay different. The reading then goes the same way,
step by step, and comes to the same model; only where a message quotes an id, it quotes the new one.
-/

namespace Blueprint

variable {f : Int → Int} {S : Set Int} {m : Model} {seen : List Int} {index : ClassIndex}
  {extended : List String} {number : Nat}

/-! ## Other ids -/

/-- A node under another id. -/
def Node.renumber (f : Int → Int) (n : Node) : Node := { n with id := f n.id }

/-- An edge between the nodes under other ids. -/
def Edge.renumber (f : Int → Int) (e : Edge) : Edge :=
  { e with start := e.start.map f, stop := e.stop.map f }

/-- A failure that quotes another id, if it quotes one. -/
def Failure.renumber (f : Int → Int) : Failure → Failure
  | duplicateNodeId id => duplicateNodeId (f id)
  | missingClassName id => missingClassName (f id)
  | other => other

@[simp]
theorem Edge.start_renumber (e : Edge) : (e.renumber f).start = e.start.map f := rfl

@[simp]
theorem Edge.stop_renumber (e : Edge) : (e.renumber f).stop = e.stop.map f := rfl

namespace Description

/-- A description with other ids, in the nodes and at the ends of the edges. -/
def renumber (f : Int → Int) (d : Description) : Description :=
  { d with nodes := d.nodes.map (Node.renumber f), edges := d.edges.map (Edge.renumber f) }

/-- All ids of a description. -/
def ids (d : Description) : Set Int :=
  { id | (∃ n ∈ d.nodes, n.id = id) ∨ ∃ e ∈ d.edges, e.start = some id ∨ e.stop = some id }

end Description

/-- Diagnostics that are equal but for the id that they quote. Two kinds of them quote one: that a
node is passed over, and that an end of an edge is no class. -/
inductive Diagnostic.Renumbered (f : Int → Int) : Diagnostic → Diagnostic → Prop
  | located {d : Diagnostic} : d.location.isSome → Renumbered f d d
  | noEnd (number : Nat) (place : String) :
      Renumbered f (.warning (droppedEdge number ++ "no " ++ place ++ " node") none)
        (.warning (droppedEdge number ++ "no " ++ place ++ " node") none)
  | skipped (id : Int) (type : String) :
      Renumbered f (.info ("skipped node " ++ toString id ++ " of type " ++ type) none)
        (.info ("skipped node " ++ toString (f id) ++ " of type " ++ type) none)
  | noClass (number : Nat) (place : String) (id : Int) :
      Renumbered f
        (.warning (droppedEdge number ++ place ++ " node " ++ toString id ++ " is not a class") none)
        (.warning (droppedEdge number ++ place ++ " node " ++ toString (f id) ++ " is not a class")
          none)

/-- Readings that come to the same model and are equal but for the ids that they quote. -/
structure Reading.Renumbered (f : Int → Int) (r r' : Reading) : Prop where
  model_eq : r'.model = r.model
  failure_eq : r'.failure = r.failure.map (Failure.renumber f)
  diagnostics : List.Forall₂ (Diagnostic.Renumbered f) (Journal.diagnostics r.journal)
    (Journal.diagnostics r'.journal)

namespace Reading.Renumbered

variable {r r' : Reading} {j j' : Journal}

theorem of_model (m : Model) : Renumbered f { model := m } { model := m } := ⟨rfl, rfl, .nil⟩

theorem after (h : Renumbered f r r')
    (hj : List.Forall₂ (Diagnostic.Renumbered f) (Journal.diagnostics j)
      (Journal.diagnostics j')) : Renumbered f (r.after j) (r'.after j') := by
  refine ⟨h.model_eq, h.failure_eq, ?_⟩
  rw [journal_after, journal_after, Journal.diagnostics_append, Journal.diagnostics_append]
  exact List.rel_append hj h.diagnostics

end Reading.Renumbered

/-! ## Nodes -/

namespace Node

/-- A class is read alike from a node under another id. It fails alike, but for the id if it has no
name. -/
theorem readClass_renumber (f : Int → Int) (n : Node) :
    (n.renumber f).readClass = (n.readClass.1, n.readClass.2.mapError (Failure.renumber f)) := by
  have hline {block : Block} {e : Failure}
      (he : Declaration.FailsAtLine (Text.trim n.name) block e) : e.renumber f = e := by
    obtain ⟨line, column, fault, rfl⟩ := he
    rfl
  rw [readClass, readClass]
  by_cases hname : Text.trim n.name = ""
  · simp [renumber, hname, Except.mapError, Failure.renumber]
  · cases hattributes : Declaration.readAttributes (Text.trim n.name) n.attributes with
    | error e =>
      have he := hline (Declaration.readAttributes_eq_error_iff.mp hattributes).failsAtLine
      simp [renumber, hname, hattributes, Except.mapError, he]
    | ok attributes =>
      cases hmethods : (Declaration.readMethods (Text.trim n.name) n.methods).2 with
      | error e =>
        have he := hline (Declaration.readMethods_eq_error_iff.mp hmethods).failsAtLine
        simp [renumber, hname, hattributes, hmethods, Except.map, Except.mapError, he]
      | ok methods =>
        simp [renumber, hname, hattributes, hmethods, Except.map, Except.mapError]

/-- What is noted of a class is found in the diagram. -/
theorem isSome_location_of_mem_readClass {n : Node} {d : Diagnostic} (h : d ∈ n.readClass.1) :
    d.location.isSome := by
  rw [readClass] at h
  split at h
  · exact absurd h List.not_mem_nil
  · split at h
    · exact absurd h List.not_mem_nil
    · obtain ⟨line, column, hlocation⟩ := Declaration.location_of_mem_readMethodLines h
      rw [hlocation]
      rfl

theorem forall₂_readClass (n : Node) :
    List.Forall₂ (Diagnostic.Renumbered f) n.readClass.1 n.readClass.1 :=
  List.forall₂_same.mpr fun _ hd => .located (isSome_location_of_mem_readClass hd)

end Node

theorem mem_map_iff_of_injOn (hf : Set.InjOn f S) (hseen : ∀ i ∈ seen, i ∈ S) {id : Int}
    (hid : id ∈ S) : f id ∈ seen.map f ↔ id ∈ seen := by
  refine ⟨fun h => ?_, List.mem_map_of_mem⟩
  obtain ⟨i, hi, heq⟩ := List.mem_map.mp h
  exact hf (hseen i hi) hid heq ▸ hi

/-- An index by other ids. -/
def ClassIndex.renumber (f : Int → Int) (index : ClassIndex) : ClassIndex :=
  index.map fun p => (f p.1, p.2)

/-- Nodes are read alike under other ids, and these are what the index then holds them by. -/
theorem readNodes_renumber (hf : Set.InjOn f S) {ns : List Node} (hns : ∀ n ∈ ns, n.id ∈ S)
    (m : Model) (hseen : ∀ i ∈ seen, i ∈ S) :
    let nodes := readNodes m seen ns
    let nodes' := readNodes m (seen.map f) (ns.map (Node.renumber f))
    nodes'.1 = ClassIndex.renumber f nodes.1 ∧ (∀ p ∈ nodes.1, p.1 ∈ S) ∧
      Reading.Renumbered f nodes.2 nodes'.2 := by
  induction ns generalizing m seen with
  | nil => exact ⟨rfl, by simp [readNodes], .of_model m⟩
  | cons n ns ih =>
    obtain ⟨hn, hrest⟩ := List.forall_mem_cons.mp hns
    have hmem : (n.renumber f).id ∈ seen.map f ↔ n.id ∈ seen := mem_map_iff_of_injOn hf hseen hn
    rw [List.map_cons]
    by_cases hid : n.id ∈ seen
    · rw [readNodes_cons_of_seen hid, readNodes_cons_of_seen (hmem.mpr hid)]
      exact ⟨rfl, by simp, rfl, rfl, .nil⟩
    · have hid' := mt hmem.mp hid
      have hseen' : ∀ i ∈ n.id :: seen, i ∈ S := List.forall_mem_cons.mpr ⟨hn, hseen⟩
      have hread' := n.readClass_renumber f
      have hnotes := n.forall₂_readClass (f := f)
      cases hclass : n.isClass with
      | false =>
        obtain ⟨hindex, hkeys, hmodel⟩ := ih hrest m hseen'
        rw [readNodes_cons_of_passed hid hclass, readNodes_cons_of_passed hid' hclass]
        exact ⟨hindex, hkeys, hmodel.after (.cons (.skipped n.id _) .nil)⟩
      | true =>
        cases hread : n.readClass with
        | mk ds result =>
          rw [hread] at hread' hnotes
          cases result with
          | error e =>
            rw [readNodes_cons_of_unreadable hid hclass hread,
              readNodes_cons_of_unreadable hid' hclass hread']
            exact ⟨rfl, by simp, rfl, rfl, by simpa using hnotes⟩
          | ok c =>
            by_cases hname : c.name ∈ m.names
            · obtain ⟨j, hj, heq⟩ := readNodes_cons_of_taken hid hclass hread hname ns
              obtain ⟨j', hj', heq'⟩ := readNodes_cons_of_taken hid' hclass hread' hname
                (ns.map (Node.renumber f))
              rw [heq, heq']
              exact ⟨rfl, by simp, rfl, rfl, by rw [hj, hj']; exact hnotes⟩
            · obtain ⟨j, hj, heq⟩ := readNodes_cons_of_added hid hclass hread hname ns
              obtain ⟨j', hj', heq'⟩ := readNodes_cons_of_added hid' hclass hread' hname
                (ns.map (Node.renumber f))
              obtain ⟨hindex, hkeys, hmodel⟩ := ih hrest { m with classes := m.classes ++ [c] } hseen'
              rw [heq, heq']
              refine ⟨congrArg _ hindex, List.forall_mem_cons.mpr ⟨hn, hkeys⟩, hmodel.after ?_⟩
              rw [hj, hj']
              exact hnotes

/-! ## Edges -/

/-- The classes of an index are found under the other ids. -/
theorem lookup_renumber (hf : Set.InjOn f S) (hindex : ∀ p ∈ index, p.1 ∈ S) {id : Int}
    (hid : id ∈ S) : (index.renumber f).lookup (f id) = index.lookup id := by
  induction index with
  | nil => rfl
  | cons p ps ih =>
    obtain ⟨hp, hps⟩ := List.forall_mem_cons.mp hindex
    have hkey : (f id == f p.1) = (id == p.1) := by
      rw [Bool.eq_iff_iff, beq_iff_eq, beq_iff_eq, hf.eq_iff hid hp]
    rw [ClassIndex.renumber, List.map_cons, List.lookup_cons, List.lookup_cons, hkey,
      ← ClassIndex.renumber, ih hps]

/-- The class at an end of an edge is the same under another id, or missing as well. -/
theorem readEnd_renumber (hf : Set.InjOn f S) (hindex : ∀ p ∈ index, p.1 ∈ S) (number : Nat)
    (place : String) {id : Option Int} (hid : ∀ i, id = some i → i ∈ S) :
    (∃ name, readEnd index number place id = .ok name ∧
      readEnd (index.renumber f) number place (id.map f) = .ok name) ∨
    ∃ w w', readEnd index number place id = .error w ∧
      readEnd (index.renumber f) number place (id.map f) = .error w' ∧
      Diagnostic.Renumbered f w w' := by
  cases id with
  | none => exact Or.inr ⟨_, _, rfl, rfl, .noEnd number place⟩
  | some id =>
    rw [Option.map_some, readEnd, readEnd, lookup_renumber hf hindex (hid id rfl)]
    cases index.lookup id with
    | some name => exact Or.inl ⟨name, rfl, rfl⟩
    | none => exact Or.inr ⟨_, _, rfl, rfl, .noClass number place id⟩

/-- An edge becomes the same association between nodes under other ids, or is left out as well. -/
theorem readEdge_renumber (hf : Set.InjOn f S) (hindex : ∀ p ∈ index, p.1 ∈ S)
    (extended : List String) (number : Nat) {e : Edge}
    (he : ∀ i, e.start = some i ∨ e.stop = some i → i ∈ S) :
    (∃ a, readEdge index extended number e = .ok a ∧
      readEdge (index.renumber f) extended number (e.renumber f) = .ok a) ∨
    ∃ ds ds', readEdge index extended number e = .error ds ∧
      readEdge (index.renumber f) extended number (e.renumber f) = .error ds' ∧
      List.Forall₂ (Diagnostic.Renumbered f) ds ds' := by
  have hstart := readEnd_renumber hf hindex number "start" fun i hi => he i (Or.inl hi)
  have hstop := readEnd_renumber hf hindex number "end" fun i hi => he i (Or.inr hi)
  have hsame (departure arrival : String) :
      (e.renumber f).association departure arrival = e.association departure arrival := rfl
  simp only [readEdge, Edge.start_renumber, Edge.stop_renumber, hsame]
  rcases hstart with ⟨departure, hd, hd'⟩ | ⟨w, w', hw, hw', hstart⟩
  · rcases hstop with ⟨arrival, ha, ha'⟩ | ⟨v, v', hv, hv', hstop⟩
    · -- both ends are there, and what is left out from here on is left out for its class
      rw [hd, hd', ha, ha']
      dsimp only
      split
      · exact Or.inl ⟨_, rfl, rfl⟩
      · split
        · exact Or.inr ⟨_, _, rfl, rfl, .cons (.located rfl) .nil⟩
        · split
          · exact Or.inr ⟨_, _, rfl, rfl, .cons (.located rfl) .nil⟩
          · exact Or.inl ⟨_, rfl, rfl⟩
    · rw [hd, hd', hv, hv']
      exact Or.inr ⟨_, _, rfl, rfl, .cons hstop .nil⟩
  · rcases hstop with ⟨arrival, ha, ha'⟩ | ⟨v, v', hv, hv', hstop⟩
    · rw [hw, hw', ha, ha']
      exact Or.inr ⟨_, _, rfl, rfl, .cons hstart .nil⟩
    · rw [hw, hw', hv, hv']
      exact Or.inr ⟨_, _, rfl, rfl, .cons hstart (.cons hstop .nil)⟩

/-- Edges are read alike under other ids. -/
theorem readEdges_renumber (hf : Set.InjOn f S) (hkeys : ∀ p ∈ index, p.1 ∈ S) {es : List Edge}
    (hes : ∀ e ∈ es, ∀ i, e.start = some i ∨ e.stop = some i → i ∈ S)
    (hindex : ∀ p ∈ index, p.2 ∈ m.names) (extended : List String) (number : Nat) :
    Reading.Renumbered f (readEdges index m extended number es)
      (readEdges (index.renumber f) m extended number (es.map (Edge.renumber f))) := by
  induction es generalizing m extended number with
  | nil => exact .of_model m
  | cons e es ih =>
    obtain ⟨he, hrest⟩ := List.forall_mem_cons.mp hes
    rw [List.map_cons]
    rcases readEdge_renumber hf hkeys extended number he with
      ⟨a, hread, hread'⟩ | ⟨ds, ds', hread, hread', hnotes⟩
    · obtain ⟨hd, ha⟩ := ends_of_readEdge_of_index hindex hread
      have hindex' : ∀ p ∈ index, p.2 ∈ (m.related a).names := by
        rw [Model.names_related]
        exact hindex
      simp only [readEdges, hread, hread', Model.relate_of_mem hd ha]
      exact (ih hrest hindex' _ _).after .nil
    · simp only [readEdges, hread, hread']
      refine (ih hrest hindex _ _).after ?_
      rw [Journal.diagnostics_ofDiagnostics, Journal.diagnostics_ofDiagnostics]
      exact hnotes

/-! ## Descriptions -/

namespace Description

variable {d : Description}

theorem kindFailure?_renumber (d : Description) :
    (d.renumber f).kindFailure? = d.kindFailure? := rfl

theorem renumber_of_kindFailure? {e : Failure} (h : d.kindFailure? = some e) :
    e.renumber f = e := by
  rw [kindFailure?] at h
  split at h
  · exact absurd h (by simp)
  · split at h
    · exact absurd h (by simp)
    · rw [← Option.some.inj h]
      rfl

/-- The parts of a description are read alike under other ids. -/
theorem readParts_renumber (hf : Set.InjOn f d.ids) (m : Model) :
    Reading.Renumbered f (d.readParts m) ((d.renumber f).readParts m) := by
  have hnodeIds : ∀ n ∈ d.nodes, n.id ∈ d.ids := fun n hn => Or.inl ⟨n, hn, rfl⟩
  have hedgeIds : ∀ e ∈ d.edges, ∀ i, e.start = some i ∨ e.stop = some i → i ∈ d.ids :=
    fun e he i hi => Or.inr ⟨e, he, hi⟩
  have hseen : ∀ i ∈ ([] : List Int), i ∈ d.ids := fun i hi => absurd hi List.not_mem_nil
  obtain ⟨hindex, hkeys, hnodes⟩ := readNodes_renumber hf hnodeIds m hseen
  have hedges := readEdges_renumber hf hkeys hedgeIds (index_readNodes_mem m [] d.nodes) [] 0
  cases hfailure : (readNodes m [] d.nodes).2.failure with
  | some e =>
    have hended := hnodes.failure_eq
    rw [hfailure] at hended
    rw [readParts_of_failure (by rw [hfailure]; rfl),
      readParts_of_failure (d := d.renumber f) (Option.isSome_of_eq_some hended)]
    exact hnodes
  | none =>
    have hfailure' : (readNodes m [] (d.renumber f).nodes).2.failure = none := by
      have hended := hnodes.failure_eq
      rwa [hfailure] at hended
    obtain ⟨j, hj, hparts⟩ := readParts_of_failure_eq_none hfailure
    obtain ⟨j', hj', hparts'⟩ := readParts_of_failure_eq_none hfailure'
    have hsame : readEdges (readNodes m [] (d.renumber f).nodes).1
        (readNodes m [] (d.renumber f).nodes).2.model [] 0 (d.renumber f).edges =
      readEdges ((readNodes m [] d.nodes).1.renumber f) (readNodes m [] d.nodes).2.model [] 0
        (d.edges.map (Edge.renumber f)) := by
      rw [← hindex, ← hnodes.model_eq]
      rfl
    rw [hsame] at hj' hparts'
    rw [hparts, hparts']
    refine ⟨hedges.model_eq, hedges.failure_eq, ?_⟩
    rw [hj, hj']
    exact List.rel_append hnodes.diagnostics hedges.diagnostics

/-- What comes of a description does not depend on its ids. If they are replaced, and different ones
stay different, it is read to its end as before, or fails as before, into the same model. Failure
and diagnostics are the same as before, but for the ids that they quote. -/
theorem readInto_renumber (d : Description) (m : Model) {f : Int → Int}
    (hf : Set.InjOn f d.ids) :
    (((d.renumber f).readInto m).failure = none ↔ (d.readInto m).failure = none) ∧
      ((d.renumber f).readInto m).model = (d.readInto m).model ∧
      ((d.renumber f).readInto m).failure = (d.readInto m).failure.map (Failure.renumber f) ∧
      List.Forall₂ (Diagnostic.Renumbered f) (Journal.diagnostics (d.readInto m).journal)
        (Journal.diagnostics ((d.renumber f).readInto m).journal) := by
  have hread : Reading.Renumbered f (d.readInto m) ((d.renumber f).readInto m) := by
    rw [readInto, readInto, kindFailure?_renumber]
    cases hkind : d.kindFailure? with
    | some e =>
      have he : some (e.renumber f) = some e := congrArg some (renumber_of_kindFailure? hkind)
      exact ⟨rfl, he.symm, by simp⟩
    | none =>
      obtain ⟨hmodel, hfailure, hnotes⟩ := readParts_renumber hf m
      refine ⟨hmodel, hfailure, ?_⟩
      rw [Journal.diagnostics_within, Journal.diagnostics_within]
      exact hnotes
  refine ⟨?_, hread.model_eq, hread.failure_eq, hread.diagnostics⟩
  rw [hread.failure_eq, Option.map_eq_none_iff]

/-- A diagram of birds, which sit in nests, with a note, and a node `last` after these. Some edges
lead to the note, to no node at all, or back. -/
def aviary (last : Node) : Description where
  nodes := [{ id := 1, name := "Bird", methods := "+ sing(song): void" },
    { id := 2, type := some "NoteNode" }, { id := 3, name := "Nest" }, last]
  edges := [{ start := some 1, stop := some 3, type := some "AggregationEdge" },
    { start := some 2, stop := some 9 }, { stop := some 3 },
    { start := some 3, stop := some 3, type := some "GeneralizationEdge" },
    { start := some 4, stop := some 1, type := some "GeneralizationEdge" }]

/-- Under other ids, negative and in the other order, the owl is a bird as well, and the messages
quote the new ids. A last node with an id that is there, or without a name, is told by its new id. -/
theorem readInto_renumber_aviary :
    let f := fun id : Int => -7 - id
    let owl := (aviary { id := 4, name := "Owl" }).renumber f
    (owl.readInto {}).failure = none ∧
      (owl.readInto {}).model = ((aviary { id := 4, name := "Owl" }).readInto {}).model ∧
      ((owl.readInto {}).model.class? "Owl").bind ClassDecl.superclass = some "Bird" ∧
      (Journal.diagnostics (owl.readInto {}).journal).map Diagnostic.message =
        ["skipped parameter 'song' of sing: expected `type name`",
          "skipped node -9 of type NoteNode", "dropped edge 1: start node -9 is not a class",
          "dropped edge 1: end node -16 is not a class", "dropped edge 2: no start node",
          "dropped edge 3: Nest cannot extend itself"] ∧
      (((aviary { id := 1, name := "Owl" }).renumber f).readInto {}).failure =
        some (.duplicateNodeId (-8)) ∧
      (((aviary { id := 4 }).renumber f).readInto {}).failure = some (.missingClassName (-11)) := by
  intro f owl
  have hf : Function.Injective f := fun a b h => by simpa [f] using h
  obtain ⟨hiff, hmodel, -, -⟩ := readInto_renumber (aviary { id := 4, name := "Owl" }) {} hf.injOn
  obtain ⟨-, -, htwin, -⟩ := readInto_renumber (aviary { id := 1, name := "Owl" }) {} hf.injOn
  obtain ⟨-, -, hnameless, -⟩ := readInto_renumber (aviary { id := 4 }) {} hf.injOn
  refine ⟨hiff.mpr (by decide +kernel), hmodel, ?_, by decide +kernel, ?_, ?_⟩
  · rw [hmodel]
    decide +kernel
  · rw [htwin]
    decide +kernel
  · rw [hnameless]
    decide +kernel

end Description

end Blueprint

import Blueprint.Proofs.Declaration.Blocks
import Blueprint.Proofs.Declaration.Grammar
import Blueprint.Proofs.Model.Nodes

/-!
# The faults of a description

All that can be wrong with a description, in the order in which it counts: first that it is of
another kind, then what is wrong with its nodes, from the first node to the last. Each node has its
own faults, and what they are depends on the ids and the class names before it.

A reading ends with the first of these faults. It knows nothing of the others, and edges have none.
-/

namespace Blueprint

open Declaration

variable {m : Model} {seen ids : List Int} {names : List String} {n : Node} {ns : List Node}
  {className : String}

/-! ## Faults -/

/-- The faults of a class on its own: a blank name, then lines that are no attributes, then lines
that are no methods. -/
def Node.classFaults (n : Node) : List Failure :=
  (if Text.trim n.name = "" then [.missingClassName n.id] else []) ++
    ((blockLines n.attributes).filterMap (·.attributeFault? (Text.trim n.name)) ++
      (blockLines n.methods).filterMap (·.methodFault? (Text.trim n.name)))

/-- The faults of a node where some class names and some ids are taken: first the id, then what is
wrong with the class, then its name. -/
def Node.faults (names : List String) (ids : List Int) (n : Node) : List Failure :=
  (if n.id ∈ ids then [.duplicateNodeId n.id] else []) ++
    if n.isClass then
      n.classFaults ++
        if Text.trim n.name ∈ names then [.duplicateClassName (Text.trim n.name)] else []
    else []

/-- The faults of nodes where some class names and some ids are taken, each node after those before
it. -/
def nodeFaults (names : List String) (ids : List Int) (ns : List Node) : List Failure :=
  ns.zipIdx.flatMap fun p =>
    p.1.faults (names ++ classNames (ns.take p.2)) (ids ++ (ns.take p.2).map Node.id)

/-- The faults of a description that is read into a model. -/
def Description.faults (d : Description) (m : Model) : List Failure :=
  d.kindFailure?.toList ++ nodeFaults m.names [] d.nodes

/-- A node that cannot be read after others: its id is that of one of them, or it stands for a class
without a name, with a line that the grammar does not know, or with the name of one of theirs. -/
def Node.RejectedAfter (earlier : List Node) (n : Node) : Prop :=
  (∃ k ∈ earlier, k.id = n.id) ∨
    n.isClass ∧
      (Text.trim n.name = "" ∨
        (∃ l ∈ blockLines n.attributes, ¬∃ p : AttributeParts, p.line = l.text) ∨
        (∃ l ∈ blockLines n.methods, ¬∃ p : MethodParts, p.line = l.text) ∨
        ∃ k ∈ earlier, k.isClass ∧ Text.trim k.name = Text.trim n.name)

/-! ## Lines and classes -/

/-- A line has a fault as an attribute if and only if it is not in the grammar. -/
theorem attributeFault?_isSome_iff {l : BlockLine} :
    (l.attributeFault? className).isSome ↔ ¬∃ p : AttributeParts, p.line = l.text := by
  rw [← readAttribute_isOk_iff, BlockLine.attributeFault?]
  cases readAttribute l.text <;> simp

/-- A line has a fault as a method if and only if it is not in the grammar. -/
theorem methodFault?_isSome_iff {l : BlockLine} :
    (l.methodFault? className).isSome ↔ ¬∃ p : MethodParts, p.line = l.text := by
  rw [← readMethod_isOk_iff, BlockLine.methodFault?]
  cases readMethod l.text <;> simp

/-- Reading a class fails with its first fault, if it has one. -/
theorem failureOf?_readClass (n : Node) : failureOf? n.readClass.2 = n.classFaults.head? := by
  have hattributes := failureOf?_readAttributes (Text.trim n.name) n.attributes
  have hmethods := failureOf?_readMethodLines (Text.trim n.name) (blockLines n.methods)
  rw [Node.classFaults, List.head?_append, List.head?_append, ← hattributes, ← hmethods]
  simp only [Node.readClass]
  -- each part is read only where the parts before it are without fault
  by_cases hname : Text.trim n.name = ""
  · rw [if_pos hname, if_pos hname]
    rfl
  · rw [if_neg hname, if_neg hname]
    cases readAttributes (Text.trim n.name) n.attributes with
    | error f => rfl
    | ok attributes =>
      simp only [readMethods]
      cases (readMethodLines (Text.trim n.name) (blockLines n.methods)).2 <;> rfl

theorem readClass_of_classFaults {f : Failure} (h : n.classFaults.head? = some f) :
    ∃ ds, n.readClass = (ds, .error f) := by
  rw [← failureOf?_readClass] at h
  cases hread : n.readClass with
  | mk ds result =>
    cases result with
    | ok c => rw [hread] at h; exact absurd h (by simp [failureOf?])
    | error g =>
      rw [hread] at h
      exact ⟨ds, by rw [Option.some.inj h]⟩

theorem readClass_of_classFaults_eq_nil (h : n.classFaults = []) :
    ∃ ds c, n.readClass = (ds, .ok c) := by
  have hnone : failureOf? n.readClass.2 = none := by rw [failureOf?_readClass, h, List.head?_nil]
  cases hread : n.readClass with
  | mk ds result =>
    cases result with
    | ok c => exact ⟨ds, c, rfl⟩
    | error g => rw [hread] at hnone; exact absurd hnone (by simp [failureOf?])

/-! ## One node -/

/-- A node with a fault ends the reading with its first one, and leaves the model as it is. -/
theorem readNodes_cons_of_faults {f : Failure} (h : (n.faults m.names seen).head? = some f)
    (ns : List Node) :
    ∃ j, readNodes m seen (n :: ns) = ([], { model := m, journal := j, failure := some f }) := by
  by_cases hid : n.id ∈ seen
  · simp only [Node.faults, if_pos hid, List.cons_append, List.head?_cons, Option.some.injEq] at h
    rw [readNodes_cons_of_seen hid, h]
    exact ⟨_, rfl⟩
  · cases hclass : n.isClass with
    | false => simp [Node.faults, hid, hclass] at h
    | true =>
      simp only [Node.faults, if_neg hid, hclass, if_true, List.nil_append, List.head?_append] at h
      cases hown : n.classFaults.head? with
      | some g =>
        obtain ⟨ds, hread⟩ := readClass_of_classFaults hown
        rw [hown, Option.some_or] at h
        rw [readNodes_cons_of_unreadable hid hclass hread, h]
        exact ⟨_, rfl⟩
      | none =>
        obtain ⟨ds, c, hread⟩ :=
          readClass_of_classFaults_eq_nil (List.head?_eq_none_iff.mp hown)
        obtain ⟨hname, -⟩ := Node.readClass_eq_ok hread
        rw [hown, Option.none_or, ← hname] at h
        by_cases htaken : c.name ∈ m.names
        · rw [if_pos htaken, List.head?_cons, Option.some.injEq] at h
          rw [← h]
          obtain ⟨j, -, heq⟩ := readNodes_cons_of_taken hid hclass hread htaken ns
          exact ⟨j, heq⟩
        · rw [if_neg htaken] at h
          exact absurd h (by simp)

theorem Node.exists_class?_of_faultless (h : n.faults names ids = []) (hclass : n.isClass) :
    ∃ ds c, n.readClass = (ds, .ok c) ∧ n.class? = some c := by
  obtain ⟨-, hrest⟩ := List.append_eq_nil_iff.mp h
  rw [if_pos hclass] at hrest
  obtain ⟨ds, c, hread⟩ := readClass_of_classFaults_eq_nil (List.append_eq_nil_iff.mp hrest).1
  exact ⟨ds, c, hread, by simp [Node.class?, hclass, hread, Except.toOption]⟩

/-- A node without a fault adds the class that it becomes, if it is one, and the reading goes on. -/
theorem readNodes_cons_of_faultless (h : n.faults m.names seen = []) (ns : List Node) :
    let m' : Model := { m with classes := m.classes ++ n.class?.toList }
    m'.names = m.names ++ classNames [n] ∧ ∃ i j, readNodes m seen (n :: ns) =
      (i ++ (readNodes m' (n.id :: seen) ns).1, (readNodes m' (n.id :: seen) ns).2.after j) := by
  intro m'
  obtain ⟨hseen, hrest⟩ := List.append_eq_nil_iff.mp h
  have hid : n.id ∉ seen := fun hid => absurd hseen (by simp [hid])
  cases hclass : n.isClass with
  | false =>
    have hm : m' = m := by simp [m', Node.class?, hclass]
    rw [hm]
    exact ⟨by simp [classNames, hclass], [], _, readNodes_cons_of_passed hid hclass⟩
  | true =>
    obtain ⟨ds, c, hread, hsome⟩ := Node.exists_class?_of_faultless h hclass
    obtain ⟨hname, -⟩ := Node.readClass_eq_ok hread
    have hnew : c.name ∉ m.names := by
      intro hmem
      rw [if_pos hclass, ← hname, if_pos hmem] at hrest
      exact absurd hrest (by simp)
    have hm : m' = { m with classes := m.classes ++ [c] } := by simp [m', hsome]
    obtain ⟨j, -, heq⟩ := readNodes_cons_of_added hid hclass hread hnew ns
    rw [hm]
    refine ⟨?_, [(n.id, c.name)], j, heq⟩
    rw [Model.names_append_singleton, hname]
    simp [classNames, hclass]

/-! ## All nodes -/

theorem Node.faults_congr {names' : List String} {ids' : List Int}
    (hnames : ∀ x, x ∈ names' ↔ x ∈ names) (hids : ∀ i, i ∈ ids' ↔ i ∈ ids) :
    n.faults names' ids' = n.faults names ids := by
  simp only [faults, hnames, hids]

theorem nodeFaults_congr {ids' : List Int} (hids : ∀ i, i ∈ ids' ↔ i ∈ ids) :
    nodeFaults names ids' ns = nodeFaults names ids ns := by
  rw [nodeFaults, nodeFaults]
  refine congrArg (List.flatMap · _) (funext fun p => Node.faults_congr (fun _ => Iff.rfl) ?_)
  simp [hids]

theorem classNames_cons (n : Node) (ns : List Node) :
    classNames (n :: ns) = classNames [n] ++ classNames ns := by
  cases hclass : n.isClass <;> simp [classNames, hclass]

theorem nodeFaults_cons (names : List String) (ids : List Int) (n : Node) (ns : List Node) :
    nodeFaults names ids (n :: ns) =
      n.faults names ids ++ nodeFaults (names ++ classNames [n]) (ids ++ [n.id]) ns := by
  -- every later node comes one place later, and has one more node before it
  rw [nodeFaults, List.zipIdx_cons, List.zipIdx_succ, List.flatMap_cons, List.flatMap_map, nodeFaults]
  refine congrArg₂ (· ++ ·) (by simp [classNames]) ?_
  refine congrArg (List.flatMap · _) (funext fun p => ?_)
  change p.1.faults (names ++ classNames ((n :: ns).take (p.2 + 1)))
    (ids ++ ((n :: ns).take (p.2 + 1)).map Node.id) = _
  rw [List.take_succ_cons, classNames_cons, List.map_cons, List.append_assoc, List.append_assoc,
    List.singleton_append]

/-- Reading nodes fails with their first fault, if they have one. -/
theorem failure_readNodes (m : Model) (seen : List Int) (ns : List Node) :
    (readNodes m seen ns).2.failure = (nodeFaults m.names seen ns).head? := by
  induction ns generalizing m seen with
  | nil => rfl
  | cons n ns ih =>
    rw [nodeFaults_cons, List.head?_append]
    cases hfaults : (n.faults m.names seen).head? with
    | some f =>
      obtain ⟨j, heq⟩ := readNodes_cons_of_faults hfaults ns
      rw [heq, Option.some_or]
    | none =>
      obtain ⟨hnames, i, j, heq⟩ :=
        readNodes_cons_of_faultless (List.head?_eq_none_iff.mp hfaults) ns
      -- ids are seen in another order than they are listed in
      have hids : nodeFaults (m.names ++ classNames [n]) (n.id :: seen) ns =
          nodeFaults (m.names ++ classNames [n]) (seen ++ [n.id]) ns :=
        nodeFaults_congr fun _ => by simp [or_comm]
      rw [heq, Option.none_or, ← hids, ← hnames]
      exact ih _ _

/-- A reading that ends at a node has added the classes of the nodes before it, none of which has a
fault. -/
theorem readNodes_of_failure {f : Failure} (h : (readNodes m seen ns).2.failure = some f) :
    ∃ before n after, ns = before ++ n :: after ∧ nodeFaults m.names seen before = [] ∧
      (n.faults (m.names ++ classNames before) (seen ++ before.map Node.id)).head? = some f ∧
      (readNodes m seen ns).2.model =
        { m with classes := m.classes ++ before.filterMap Node.class? } := by
  induction ns generalizing m seen with
  | nil => exact absurd h (by simp [readNodes])
  | cons n ns ih =>
    cases hfaults : (n.faults m.names seen).head? with
    | some g =>
      obtain ⟨j, heq⟩ := readNodes_cons_of_faults hfaults ns
      rw [heq] at h
      rw [heq]
      exact ⟨[], n, ns, rfl, rfl, by simpa [classNames, hfaults] using h, by simp⟩
    | none =>
      rw [List.head?_eq_none_iff] at hfaults
      obtain ⟨hnames, i, j, heq⟩ := readNodes_cons_of_faultless hfaults ns
      rw [heq] at h
      obtain ⟨before, k, after, rfl, hbefore, hk, hmodel⟩ := ih h
      refine ⟨n :: before, k, after, rfl, ?_, ?_, ?_⟩
      · rw [nodeFaults_cons, hfaults, List.nil_append, ← hnames, ← hbefore]
        exact nodeFaults_congr fun _ => by simp [or_comm]
      · rw [← hk, hnames, List.append_assoc, ← classNames_cons]
        refine congrArg List.head? (Node.faults_congr (fun _ => Iff.rfl) fun _ => ?_)
        simp only [List.mem_append, List.mem_cons, List.map_cons]
        tauto
      · rw [heq, Reading.model_after, hmodel]
        cases hn : n.class? <;> simp [hn]

/-! ## Descriptions -/

/-- A description is read to its end unless it has a fault, and ends with its first one. -/
theorem Description.failure_readInto (d : Description) (m : Model) :
    (d.readInto m).failure = (d.faults m).head? := by
  rw [readInto, faults]
  cases d.kindFailure? with
  | some f => rfl
  | none =>
    rw [Option.toList_none, List.nil_append, ← failure_readNodes, ← failure_readParts]

theorem Description.kindFailure?_isSome_iff {d : Description} :
    d.kindFailure?.isSome ↔ ∃ kind, d.diagram = some kind ∧ Text.trim kind ≠ "ClassDiagram" := by
  rw [kindFailure?]
  cases d.diagram with
  | none => simp
  | some kind =>
    by_cases hkind : Text.trim kind = "ClassDiagram" <;> simp [hkind]

theorem Node.classFaults_ne_nil_iff : n.classFaults ≠ [] ↔ Text.trim n.name = "" ∨
    (∃ l ∈ blockLines n.attributes, ¬∃ p : AttributeParts, p.line = l.text) ∨
    ∃ l ∈ blockLines n.methods, ¬∃ p : MethodParts, p.line = l.text := by
  have hlines (f : BlockLine → Option Failure) (ls : List BlockLine) :
      ¬ls.filterMap f = [] ↔ ∃ l ∈ ls, (f l).isSome := by
    simp [List.filterMap_eq_nil_iff, Option.isSome_iff_ne_none]
  simp only [classFaults, ne_eq, List.append_eq_nil_iff, not_and_or, hlines,
    attributeFault?_isSome_iff, methodFault?_isSome_iff, ite_eq_right_iff, List.cons_ne_nil,
    imp_false, not_not]

/-- Exactly the nodes that are rejected have faults. -/
theorem Node.faults_ne_nil_iff {earlier : List Node} :
    n.faults (classNames earlier) (earlier.map Node.id) ≠ [] ↔ n.RejectedAfter earlier := by
  have hid : n.id ∈ earlier.map Node.id ↔ ∃ k ∈ earlier, k.id = n.id := List.mem_map
  have hname : Text.trim n.name ∈ classNames earlier ↔
      ∃ k ∈ earlier, k.isClass ∧ Text.trim k.name = Text.trim n.name := by
    simp [classNames, and_assoc]
  have hown : ¬n.classFaults = [] ↔ _ := n.classFaults_ne_nil_iff
  rw [RejectedAfter, ← hid, ← hname, faults]
  cases hclass : n.isClass with
  | false => simp
  | true =>
    simp only [if_true, ne_eq, List.append_eq_nil_iff, not_and_or, ite_eq_right_iff,
      List.cons_ne_nil, imp_false, not_not, true_and, hown, or_assoc]

/-- Nodes have faults if and only if one of them is rejected after those before it. -/
theorem nodeFaults_ne_nil_iff :
    nodeFaults [] [] ns ≠ [] ↔ ∃ k, ∃ n : Node, ns[k]? = some n ∧ n.RejectedAfter (ns.take k) := by
  rw [nodeFaults, ne_eq, List.flatMap_eq_nil_iff]
  simp only [List.nil_append, ← Node.faults_ne_nil_iff, Prod.forall,
    List.mem_zipIdx_iff_getElem?]
  push Not
  exact exists_comm

/-- When and how a description is rejected. It is rejected if and only if it is of another kind or
one of its nodes is rejected after those before it, and its first fault is what it is rejected for:
its kind, or else the first fault of the first such node. Edges have no say in it. -/
theorem Description.failure_readInto_empty (d : Description) :
    ((d.readInto {}).failure.isSome ↔
      (∃ kind, d.diagram = some kind ∧ Text.trim kind ≠ "ClassDiagram") ∨
        ∃ k, ∃ n : Node, d.nodes[k]? = some n ∧ n.RejectedAfter (d.nodes.take k)) ∧
      (d.readInto {}).failure = (d.faults {}).head? ∧
      (∀ (earlier : List Node) (n : Node), n.faults (classNames earlier) (earlier.map Node.id) ≠ [] ↔
        n.RejectedAfter earlier) ∧
      ∀ es, ({ d with edges := es }.readInto {}).failure = (d.readInto {}).failure := by
  refine ⟨?_, d.failure_readInto {}, fun _ _ => Node.faults_ne_nil_iff, fun es => ?_⟩
  · rw [failure_readInto, List.isSome_head?, ← kindFailure?_isSome_iff, ← nodeFaults_ne_nil_iff,
      faults]
    cases d.kindFailure? <;> simp [Model.names]
  · rw [failure_readInto, failure_readInto]
    rfl

/-- The second node repeats an id, and has no name either. -/
example : (({ nodes := [{ id := 1, name := "Cat" }, { id := 1, name := " " }] } :
    Description).readInto {}).failure = some (.duplicateNodeId 1) := by decide

end Blueprint

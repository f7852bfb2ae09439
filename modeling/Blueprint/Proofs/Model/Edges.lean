import Blueprint.Proofs.Model.Integrity
import Blueprint.Proofs.Model.Links

/-!
# Edges become what they mean

Reading edges threads a model, an index of nodes and the list of the classes that extend another one
already. After each edge these say what the edges so far mean: the associations are those that are
kept, a class extends the arrival of its first generalization, and the list holds the classes that
extend another one. An edge that is dropped leaves all of this as it is, and a warning.
-/

namespace Blueprint

variable {d : Description} {index : ClassIndex} {m : Model} {extended : List String}
  {before : List Edge}

/-- A warning that the edge with an index is dropped. -/
def Diagnostic.WarnsOf (w : Diagnostic) (number : Nat) : Prop :=
  w.isWarning ∧ ∃ reason, w.message = "dropped edge " ++ toString number ++ ": " ++ reason

theorem Diagnostic.WarnsOf.severity_eq {w : Diagnostic} {number : Nat} (h : w.WarnsOf number) :
    w.severity = .warning := beq_iff_eq.mp h.1

theorem warnsOf_warning (number : Nat) (reason : String) (location : Option Location) :
    (Diagnostic.warning (droppedEdge number ++ reason) location).WarnsOf number :=
  ⟨rfl, reason, rfl⟩

/-- The warnings that an edge leaves. -/
def edgeWarnings (index : ClassIndex) (extended : List String) (number : Nat) (e : Edge) :
    List Diagnostic :=
  match readEdge index extended number e with
  | .error ds => ds
  | .ok _ => []

/-- The index and the model after all nodes of a description. -/
structure NodesRead (d : Description) (index : ClassIndex) (m : Model) : Prop where
  /-- The index holds the nodes of classes. -/
  index_eq : index = (d.nodes.filter Node.isClass).map fun n => (n.id, Text.trim n.name)
  /-- The model holds their classes. -/
  names_eq : m.names = (d.nodes.filter Node.isClass).map fun n => Text.trim n.name
  /-- No two classes share a name. -/
  names_nodup : m.names.Nodup

/-- The model and the classes that extend another one after the edges `before`. -/
structure EdgesRead (d : Description) (before : List Edge) (m : Model) (extended : List String) :
    Prop where
  /-- The associations are those that are kept. -/
  associations_eq : m.associations = d.keptAssociations before
  /-- A class extends another one as soon as an edge makes it do so. -/
  mem_extended_iff : ∀ name, name ∈ extended ↔ (d.superclass? before name).isSome
  /-- What a class extends is what the edges make it extend. -/
  superclass_eq : ∀ c ∈ m.classes, c.superclass = d.superclass? before c.name
  /-- The associations say the same. -/
  generalizations_eq : ∀ c ∈ m.classes,
    ((m.departing c.name).filter (·.kind == .generalization)).map Association.arrival =
      c.superclass.toList

/-! ## The ends of an edge -/

theorem lookup_map_nodes (ns : List Node) (id : Int) :
    (ns.map fun n => (n.id, Text.trim n.name)).lookup id =
      (ns.find? fun n => n.id == id).map fun n => Text.trim n.name := by
  induction ns with
  | nil => rfl
  | cons n ns ih =>
    rw [List.map_cons, List.lookup_cons, List.find?_cons]
    by_cases hid : n.id = id
    · simp [hid]
    · have hne : (id == n.id) = false := beq_eq_false_iff_ne.mpr (Ne.symm hid)
      rw [hne, beq_eq_false_iff_ne.mpr hid]
      exact ih

namespace NodesRead

variable (hn : NodesRead d index m)

include hn

theorem nodup : ((d.nodes.filter Node.isClass).map fun n => Text.trim n.name).Nodup :=
  hn.names_eq ▸ hn.names_nodup

theorem lookup_eq (id : Int) :
    index.lookup id = (d.classNode? (some id)).map fun n => Text.trim n.name := by
  rw [hn.index_eq, lookup_map_nodes, List.find?_filter, Description.classNode?, Option.bind_some]
  simp only [Bool.decide_and, Bool.decide_eq_true]

theorem readEnd_of_some (number : Nat) (place : String) {id : Option Int} {n : Node}
    (h : d.classNode? id = some n) :
    readEnd index number place id = .ok (Text.trim n.name) := by
  obtain ⟨rfl, -⟩ := Description.mem_of_classNode? h
  have hlookup : index.lookup n.id = some (Text.trim n.name) := by
    rw [hn.lookup_eq, h, Option.map_some]
  rw [readEnd, hlookup]

theorem readEnd_of_none (number : Nat) (place : String) {id : Option Int}
    (h : d.classNode? id = none) :
    ∃ w, readEnd index number place id = .error w ∧ w.WarnsOf number := by
  cases id with
  | none =>
    refine ⟨_, rfl, ?_⟩
    rw [String.append_assoc, String.append_assoc]
    exact warnsOf_warning _ _ _
  | some id =>
    have hlookup : index.lookup id = none := by rw [hn.lookup_eq, h, Option.map_none]
    rw [readEnd, hlookup]
    refine ⟨_, rfl, ?_⟩
    rw [String.append_assoc, String.append_assoc, String.append_assoc]
    exact warnsOf_warning _ _ _

/-! ## One edge -/

/-- An edge that is no link leaves a warning for an end that is no node of a class. -/
theorem readEdge_of_link?_eq_none (number : Nat) {e : Edge} (h : d.link? e = none) :
    ∃ ds, readEdge index extended number e = .error ds ∧ ∃ w ∈ ds, w.WarnsOf number := by
  cases hstart : d.classNode? e.start with
  | none =>
    obtain ⟨w, hw, hwarns⟩ := hn.readEnd_of_none number "start" hstart
    rw [readEdge, hw]
    cases readEnd index number "end" e.stop with
    | error w' => exact ⟨[w, w'], rfl, w, List.mem_cons_self, hwarns⟩
    | ok arrival => exact ⟨[w], rfl, w, List.mem_cons_self, hwarns⟩
  | some n =>
    have hstop : d.classNode? e.stop = none := by
      rw [Description.link?, hstart, Option.bind_some, Option.map_eq_none_iff] at h
      exact h
    obtain ⟨w, hw, hwarns⟩ := hn.readEnd_of_none number "end" hstop
    rw [readEdge, hw, hn.readEnd_of_some number "start" hstart]
    exact ⟨[w], rfl, w, List.mem_cons_self, hwarns⟩

/-- An edge between two classes that is dropped leaves one warning. -/
theorem readEdge_of_refused (number : Nat) (h : EdgesRead d before m extended) {e : Edge} {l : Link}
    (hlink : d.link? e = some l) (hdropped : d.kept? before e = none) :
    ∃ w, readEdge index extended number e = .error [w] ∧ w.WarnsOf number := by
  obtain ⟨rfl, hstart, hstop⟩ := Description.classNode?_of_link? hlink
  rw [readEdge, hn.readEnd_of_some number "start" hstart, hn.readEnd_of_some number "end" hstop]
  change ∃ w, (if l.kind ≠ .generalization then _ else
    if l.departure = l.arrival then _ else if l.departure ∈ extended then _ else _) = _ ∧ _
  rw [Description.kept?_of_link? hn.nodup hlink] at hdropped
  have hcause : l.kind = .generalization ∧
      (l.departure = l.arrival ∨ (d.superclass? before l.departure).isSome) := by
    by_contra hnot
    rw [if_neg hnot] at hdropped
    exact absurd hdropped (by simp)
  rw [if_neg (not_not.mpr hcause.1)]
  by_cases hloop : l.departure = l.arrival
  · rw [if_pos hloop]
    refine ⟨_, rfl, ?_⟩
    rw [String.append_assoc]
    exact warnsOf_warning _ _ _
  · rw [if_neg hloop, if_pos ((h.mem_extended_iff _).mpr (hcause.2.resolve_left hloop))]
    refine ⟨_, rfl, ?_⟩
    rw [String.append_assoc, String.append_assoc]
    exact warnsOf_warning _ _ _

/-- An edge that is dropped leaves a warning. -/
theorem readEdge_of_dropped (number : Nat) (h : EdgesRead d before m extended) {e : Edge}
    (hdropped : d.kept? before e = none) :
    ∃ ds, readEdge index extended number e = .error ds ∧ ∃ w ∈ ds, w.WarnsOf number := by
  cases hlink : d.link? e with
  | none => exact hn.readEdge_of_link?_eq_none number hlink
  | some l =>
    obtain ⟨w, hread, hwarns⟩ := hn.readEdge_of_refused number h hlink hdropped
    exact ⟨[w], hread, w, List.mem_singleton_self w, hwarns⟩

/-- An edge that is kept becomes the association that it means. -/
theorem readEdge_of_kept (number : Nat) (h : EdgesRead d before m extended) {e : Edge}
    {a : Association} (hkept : d.kept? before e = some a) : readEdge index extended number e = .ok a := by
  cases hlink : d.link? e with
  | none =>
    rw [Description.kept?, hlink] at hkept
    exact absurd hkept (by simp)
  | some l =>
    obtain ⟨rfl, hstart, hstop⟩ := Description.classNode?_of_link? hlink
    rw [Description.kept?_of_link? hn.nodup hlink] at hkept
    rw [readEdge, hn.readEnd_of_some number "start" hstart, hn.readEnd_of_some number "end" hstop]
    change (if l.kind ≠ .generalization then Except.ok l.association else
      if l.departure = l.arrival then _ else if l.departure ∈ extended then _ else _) = _
    split at hkept
    · exact absurd hkept (by simp)
    · next hcause =>
      obtain rfl : l.association = a := Option.some.inj hkept
      by_cases hkind : l.kind = .generalization
      · rw [not_and, not_or, ← h.mem_extended_iff] at hcause
        rw [if_neg (not_not.mpr hkind), if_neg (hcause hkind).1, if_neg (hcause hkind).2]
        rfl
      · rw [if_pos hkind]

/-- Relating classes changes no names. -/
theorem related (a : Association) : NodesRead d index (m.related a) :=
  ⟨hn.index_eq, Model.names_related.trans hn.names_eq,
    by rw [Model.names_related]; exact hn.names_nodup⟩

/-- The index names classes of the model. -/
theorem index_mem : ∀ p ∈ index, p.2 ∈ m.names := by
  rw [hn.index_eq, hn.names_eq]
  intro p hp
  obtain ⟨n, hmem, rfl⟩ := List.mem_map.mp hp
  exact List.mem_map.mpr ⟨n, hmem, rfl⟩

end NodesRead

namespace EdgesRead

variable {e : Edge} {a : Association}

/-- After an edge that is dropped, all is as it was. -/
theorem dropped (h : EdgesRead d before m extended) (hn : NodesRead d index m)
    (hdropped : d.kept? before e = none) : EdgesRead d (before ++ [e]) m extended := by
  have hsuper := Description.superclass?_of_dropped hn.nodup hdropped
  refine ⟨?_, ?_, ?_, h.generalizations_eq⟩
  · rw [Description.keptAssociations_append_singleton, hdropped, Option.toList_none,
      List.append_nil]
    exact h.associations_eq
  · rw [hsuper]
    exact h.mem_extended_iff
  · rw [hsuper]
    exact h.superclass_eq

/-- After an edge that is kept, its association is there, and its departure extends its arrival if
it is a generalization. -/
theorem kept (h : EdgesRead d before m extended) (hn : NodesRead d index m)
    (hkept : d.kept? before e = some a) :
    EdgesRead d (before ++ [e]) (m.related a)
      (if a.kind = .generalization then a.departure :: extended else extended) := by
  obtain ⟨hfirst, hsuper⟩ := Description.superclass?_of_kept hn.nodup hkept
  refine ⟨?_, ?_, ?_, ?_⟩
  · rw [Description.keptAssociations_append_singleton, hkept, ← h.associations_eq]
    rfl
  · intro name
    rw [hsuper]
    by_cases hkind : a.kind = .generalization
    · by_cases hname : a.departure = name
      · simp [hkind, hname]
      · simp [hkind, hname, Ne.symm hname, h.mem_extended_iff]
    · simp [hkind, h.mem_extended_iff]
  · intro c hc
    obtain ⟨c', hc', hname, hown⟩ := Model.superclass_of_mem_classesAfter hn.names_nodup hc
    rw [hsuper, hown, ← hname, h.superclass_eq c' hc']
  · intro c hc
    obtain ⟨c', hc', hname, hown⟩ := Model.superclass_of_mem_classesAfter hn.names_nodup hc
    have hbefore := h.generalizations_eq c' hc'
    rw [hname] at hbefore
    have hmore : (m.related a).departing c.name =
        m.departing c.name ++ [a].filter (·.departure == c.name) := List.filter_append _ _
    rw [hmore, List.filter_append, List.map_append, hbefore, hown]
    by_cases hnew : a.kind = .generalization ∧ a.departure = c.name
    · obtain ⟨hkind, hdeparture⟩ := hnew
      -- a generalization that is kept is the first to leave its class
      have hnone : c'.superclass = none := by
        rw [h.superclass_eq c' hc', hname, ← hdeparture, hfirst hkind]
      simp [hkind, hdeparture, hnone]
    · rw [if_neg hnew]
      by_cases hdeparture : a.departure = c.name
      · have hkind : a.kind ≠ .generalization := fun hkind => hnew ⟨hkind, hdeparture⟩
        simp [hdeparture, hkind]
      · simp [hdeparture]

/-- One more edge is read: the model and the classes that extend another one come to mean it too,
its warnings are noted, and there is one if it is dropped. -/
theorem step (h : EdgesRead d before m extended) (hn : NodesRead d index m) (e : Edge)
    (es : List Edge) :
    ∃ m' extended' noted, NodesRead d index m' ∧ EdgesRead d (before ++ [e]) m' extended' ∧
      readEdges index m extended before.length (e :: es) =
        (readEdges index m' extended' (before ++ [e]).length es).after noted ∧
      Journal.diagnostics noted = edgeWarnings index extended before.length e ∧
      (d.kept? before e = none →
        ∃ w ∈ Journal.diagnostics noted, w.WarnsOf before.length) := by
  rw [List.length_append, List.length_singleton]
  have hcases := readEdges_cons_cases hn.index_mem extended before.length e es
  cases hk : d.kept? before e with
  | none =>
    obtain ⟨ds, hread, w, hw, hwarns⟩ := hn.readEdge_of_dropped before.length h hk
    rcases hcases with ⟨ds', hread', heq⟩ | ⟨j, a, -, hread', -⟩
    · rw [hread] at hread'
      obtain rfl := Except.error.inj hread'
      exact ⟨m, extended, _, hn, h.dropped hn hk, heq, by simp [edgeWarnings, hread],
        fun _ => ⟨w, by simpa using hw, hwarns⟩⟩
    · rw [hread] at hread'
      exact absurd hread' (by simp)
  | some a =>
    have hread := hn.readEdge_of_kept before.length h hk
    rcases hcases with ⟨ds, hread', -⟩ | ⟨j, a', hnone, hread', -, -, heq⟩
    · rw [hread] at hread'
      exact absurd hread' (by simp)
    · rw [hread] at hread'
      obtain rfl := Except.ok.inj hread'
      exact ⟨m.related a, _, j, hn.related a, h.kept hn hk, heq, by simp [edgeWarnings, hread, hnone],
        fun hdropped => absurd hdropped (by simp)⟩

end EdgesRead

/-! ## All edges -/

/-- Reading edges makes of a model what they mean, and leaves a warning for each that is dropped. -/
theorem readEdges_read (hn : NodesRead d index m) (h : EdgesRead d before m extended)
    (es : List Edge) :
    let r := readEdges index m extended before.length es
    (∃ extended', EdgesRead d (before ++ es) r.model extended') ∧
      ∀ i e, es[i]? = some e → d.kept? (before ++ es.take i) e = none →
        ∃ w ∈ Journal.diagnostics r.journal, w.WarnsOf (before.length + i) := by
  induction es generalizing before m extended with
  | nil => exact ⟨⟨extended, by rw [List.append_nil]; exact h⟩, by simp⟩
  | cons e es ih =>
    obtain ⟨m', extended', noted, hn', h', heq, -, hfirst⟩ := h.step hn e es
    obtain ⟨hread, hwarned⟩ := ih hn' h'
    have hsplit (rest : List Edge) : before ++ e :: rest = before ++ [e] ++ rest := by simp
    intro r
    have hr : r = (readEdges index m' extended' (before ++ [e]).length es).after noted := heq
    rw [hr, Reading.model_after, Reading.journal_after, Journal.diagnostics_append, hsplit]
    refine ⟨hread, ?_⟩
    intro i e' hi hnone
    cases i with
    | zero =>
      obtain rfl : e = e' := Option.some.inj hi
      rw [List.take_zero, List.append_nil] at hnone
      obtain ⟨w, hw, hwarns⟩ := hfirst hnone
      exact ⟨w, List.mem_append_left _ hw, hwarns⟩
    | succ i =>
      rw [List.take_succ_cons, hsplit] at hnone
      obtain ⟨w, hw, hwarns⟩ := hwarned i e' hi hnone
      have hnumber : (before ++ [e]).length + i = before.length + (i + 1) := by
        rw [List.length_append, List.length_singleton]
        omega
      exact ⟨w, List.mem_append_right _ hw, hnumber ▸ hwarns⟩

/-! ## Whole descriptions -/

theorem nodesRead_readNodes (h : (readNodes {} [] d.nodes).2.failure = none) :
    NodesRead d (readNodes {} [] d.nodes).1 (readNodes {} [] d.nodes).2.model := by
  obtain ⟨hindex, hnames⟩ := readNodes_of_failure_eq_none h
  have hwell : (readNodes {} [] d.nodes).2.model.WellFormed :=
    readNodes_induction Model.wellFormed_empty (fun _ _ _ hm _ hadd => hm.addClass hadd) [] d.nodes
  exact ⟨hindex, hnames, hwell.names_nodup⟩

/-- Before the first edge there are no associations, and no class extends another one. -/
theorem edgesRead_readNodes (d : Description) :
    EdgesRead d [] (readNodes {} [] d.nodes).2.model [] := by
  obtain ⟨hnone, hsuper⟩ := readNodes_induction (m := {})
    (P := fun m => m.associations = [] ∧ ∀ c ∈ m.classes, c.superclass = none)
    ⟨rfl, fun c hc => absurd hc List.not_mem_nil⟩
    (by
      intro m c m' hm hc hadd
      obtain ⟨-, rfl⟩ := Model.addClass_eq_ok_iff.mp hadd
      refine ⟨hm.1, fun c' hc' => ?_⟩
      rcases List.mem_append.mp hc' with hc' | hc'
      · exact hm.2 c' hc'
      · exact List.mem_singleton.mp hc' ▸ hc)
    [] d.nodes
  refine ⟨hnone, ?_, hsuper, ?_⟩
  · intro name
    simp [Description.superclass?, Description.extensions]
  · intro c hc
    rw [hsuper c hc, Model.departing, hnone]
    rfl

/-- A description that is read has come to mean all of its edges. -/
theorem Description.exists_edgesRead {d : Description} (h : (d.readInto {}).failure = none) :
    ∃ extended, EdgesRead d d.edges (d.readInto {}).model extended := by
  obtain ⟨hnodes, hmodel, -⟩ := readInto_of_failure_eq_none h
  obtain ⟨⟨extended, hread⟩, -⟩ :=
    readEdges_read (nodesRead_readNodes hnodes) (edgesRead_readNodes d) d.edges
  rw [List.nil_append, List.length_nil, ← hmodel] at hread
  exact ⟨extended, hread⟩

/-- In a text that is read, the generalizations that leave a class lead to what it extends. -/
theorem Model.generalizations_readText {text : String}
    (h : (readText {} text).failure = none) :
    ∀ c ∈ (readText {} text).model.classes,
      (((readText {} text).model.departing c.name).filter (·.kind == .generalization)).map
        Association.arrival = c.superclass.toList := by
  rw [readText] at h ⊢
  split at h
  · exact absurd h (by simp)
  · next d _ =>
    obtain ⟨extended, hread⟩ := Description.exists_edgesRead h
    exact hread.generalizations_eq

/-- A description that is read becomes what its edges mean. The associations are the edges that are
kept, in their order. A class extends the arrival of the first generalization that leaves it and
does not lead back, which is never itself; there is no other generalization among the associations
that leave it. Every edge that is dropped leaves a warning with its index. -/
theorem Description.readInto_edges {d : Description} (h : (d.readInto {}).failure = none) :
    let r := d.readInto {}
    r.model.associations = d.keptAssociations d.edges ∧
      (∀ c ∈ r.model.classes, c.superclass = d.superclass? d.edges c.name ∧
        c.superclass ≠ some c.name ∧
        ((r.model.departing c.name).filter (·.kind == .generalization)).map Association.arrival =
          c.superclass.toList) ∧
      ∀ i e, d.edges[i]? = some e → d.kept? (d.edges.take i) e = none →
        ∃ w ∈ Journal.diagnostics r.journal, w.WarnsOf i := by
  intro r
  obtain ⟨hnodes, hmodel, hjournal⟩ := readInto_of_failure_eq_none h
  have hn := nodesRead_readNodes hnodes
  obtain ⟨⟨extended, hread⟩, hwarned⟩ := readEdges_read hn (edgesRead_readNodes d) d.edges
  rw [List.nil_append, List.length_nil, ← hmodel] at hread
  refine ⟨hread.associations_eq, ?_, ?_⟩
  · intro c hc
    have hsuper := hread.superclass_eq c hc
    exact ⟨hsuper, hsuper ▸ superclass?_ne hn.nodup, hread.generalizations_eq c hc⟩
  · intro i e hi hnone
    obtain ⟨w, hw, hwarns⟩ := hwarned i e hi hnone
    rw [List.length_nil, Nat.zero_add] at hwarns
    refine ⟨w, ?_, hwarns⟩
    rw [hjournal]
    exact List.mem_append_right _ hw

/-- A zoo: lions are cats and live in packs. One edge makes a cat extend itself, one makes lions
extend a second class, and one leads nowhere. -/
def zoo : Description where
  nodes := [{ id := 1, name := "Cat" }, { id := 2, name := " Lion " }, { id := 3, name := "Pack" },
    { id := 4, type := some "NoteNode" }]
  edges := [
    { start := some 1, stop := some 1, type := some "GeneralizationEdge" },
    { start := some 2, stop := some 1, type := some "GeneralizationEdge" },
    { start := some 2, stop := some 4, type := some "GeneralizationEdge" },
    { start := some 2, stop := some 3, type := some "GeneralizationEdge" },
    { start := some 3, stop := some 2, type := some "AggregationEdge", startLabel := some " 1 "
      middleLabel := some "hunts", endLabel := some "*" }]

/-- What the edges of the zoo mean is what is left of them when it is read. -/
theorem Description.readInto_edges_zoo :
    (zoo.readInto {}).failure = none ∧
      (zoo.readInto {}).model.associations = [
        { kind := .generalization, departure := "Lion", arrival := "Cat" },
        { kind := .aggregation, departure := "Pack", arrival := "Lion", label := some "hunts"
          arrivalMultiplicity := .many, departureMultiplicity := .one }] ∧
      ∀ i ∈ [0, 2, 3], ∃ w ∈ Journal.diagnostics (zoo.readInto {}).journal, w.WarnsOf i := by
  have h : (zoo.readInto {}).failure = none := by rfl
  obtain ⟨hassociations, -, hwarned⟩ := readInto_edges h
  refine ⟨h, ?_, ?_⟩
  · rw [hassociations]
    rfl
  · intro i hi
    have hdropped : ∃ e, zoo.edges[i]? = some e ∧ zoo.kept? (zoo.edges.take i) e = none := by
      simp only [List.mem_cons, List.not_mem_nil, or_false] at hi
      rcases hi with rfl | rfl | rfl
      · exact ⟨_, rfl, rfl⟩
      · exact ⟨_, rfl, rfl⟩
      · exact ⟨_, rfl, rfl⟩
    obtain ⟨e, he, hnone⟩ := hdropped
    exact hwarned i e he hnone

end Blueprint

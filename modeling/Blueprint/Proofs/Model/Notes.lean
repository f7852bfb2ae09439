import Blueprint.Proofs.Declaration.Strays
import Blueprint.Proofs.Model.Edges
import Blueprint.Proofs.Model.Nodes

/-!
# What a reading notes

A reading leaves something out in three places: at a parameter that is not two words, at an end of an
edge that is no node of a class, and at a generalization that would make a class extend itself or a
second class. Each of these leaves one warning, so an edge leaves up to two. A node that stands for no
class leaves an info. There are no other notes.
-/

namespace Blueprint

variable {d : Description} {index : ClassIndex} {m : Model} {extended : List String}
  {before : List Edge} {n : Node} {c : ClassDecl} {ds : List Diagnostic}

namespace Description

/-- How many ends of an edge are no nodes of classes. -/
def looseEnds (d : Description) (e : Edge) : Nat :=
  [e.start, e.stop].countP fun id => (d.classNode? id).isNone

/-- Whether an edge after the edges `before` would make a class extend itself, or, after another
edge, a second class. -/
def refuses (d : Description) (before : List Edge) (e : Edge) : Bool :=
  (d.link? e).any fun l => l.kind = .generalization ∧
    (l.start.id = l.stop.id ∨ ∃ x ∈ d.extensions before, x.start.id = l.start.id)

/-- How many edges would do that. -/
def refusals (d : Description) (es : List Edge) : Nat :=
  es.zipIdx.countP fun p => d.refuses (es.take p.2) p.1

/-- How many parameters of the methods of classes are not two words. -/
def strays (d : Description) : Nat :=
  ((d.nodes.filter Node.isClass).map fun n => Declaration.strays n.methods).sum

/-- How many nodes stand for no class. -/
def bystanders (d : Description) : Nat := d.nodes.countP (!·.isClass)

theorem refusals_append_singleton (d : Description) (before : List Edge) (e : Edge) :
    d.refusals (before ++ [e]) = d.refusals before + (d.refuses before e).toNat := by
  have hfirst : before.zipIdx.countP (fun p => d.refuses ((before ++ [e]).take p.2) p.1) =
      d.refusals before := by
    refine List.countP_congr fun p hp => ?_
    have hlt : p.2 < before.length := List.snd_lt_of_mem_zipIdx hp
    rw [List.take_append_of_le_length (Nat.le_of_lt hlt)]
  rw [refusals, List.zipIdx_append, List.countP_append, hfirst]
  cases hrefused : d.refuses before e <;> simp [hrefused]

theorem refuses_of_link?_eq_none {e : Edge} (h : d.link? e = none) :
    d.refuses before e = false := by
  rw [refuses, h, Option.any_none]

/-- An edge between two classes is refused if and only if it is dropped. -/
theorem refuses_of_link? {e : Edge} {l : Link} (h : d.link? e = some l) :
    d.refuses before e = (d.kept? before e).isNone := by
  rw [refuses, kept?, h, Option.any_some, Option.bind_some]
  split
  · next hcause => simp [hcause]
  · next hcause => simpa using hcause

end Description

/-! ## Edges -/

/-- An edge leaves a warning for each end that is no node of a class, and one if it is refused. -/
theorem NodesRead.tally_edgeWarnings (hn : NodesRead d index m)
    (h : EdgesRead d before m extended) (number : Nat) (e : Edge) :
    Tally (edgeWarnings index extended number e)
      (d.looseEnds e + (d.refuses before e).toNat) 0 := by
  cases hstart : d.classNode? e.start with
  | none =>
    have hlink : d.link? e = none := by rw [Description.link?, hstart, Option.bind_none]
    obtain ⟨w, hw, hwarns⟩ := hn.readEnd_of_none number "start" hstart
    rw [Description.refuses_of_link?_eq_none hlink, edgeWarnings, readEdge, hw]
    cases hstop : d.classNode? e.stop with
    | none =>
      obtain ⟨w', hw', hwarns'⟩ := hn.readEnd_of_none number "end" hstop
      have hloose : d.looseEnds e = 2 := by simp [Description.looseEnds, hstart, hstop]
      rw [hw', hloose]
      exact (Tally.warning hwarns.severity_eq).append (Tally.warning hwarns'.severity_eq)
    | some k =>
      have hloose : d.looseEnds e = 1 := by simp [Description.looseEnds, hstart, hstop]
      rw [hn.readEnd_of_some number "end" hstop, hloose]
      exact Tally.warning hwarns.severity_eq
  | some n =>
    cases hstop : d.classNode? e.stop with
    | none =>
      have hlink : d.link? e = none := by
        rw [Description.link?, hstart, Option.bind_some, hstop, Option.map_none]
      have hloose : d.looseEnds e = 1 := by simp [Description.looseEnds, hstart, hstop]
      obtain ⟨w, hw, hwarns⟩ := hn.readEnd_of_none number "end" hstop
      rw [Description.refuses_of_link?_eq_none hlink, edgeWarnings, readEdge,
        hn.readEnd_of_some number "start" hstart, hw, hloose]
      exact Tally.warning hwarns.severity_eq
    | some k =>
      have hlink : d.link? e = some { edge := e, start := n, stop := k } := by
        rw [Description.link?, hstart, Option.bind_some, hstop, Option.map_some]
      have hloose : d.looseEnds e = 0 := by simp [Description.looseEnds, hstart, hstop]
      rw [Description.refuses_of_link? hlink, hloose, Nat.zero_add, edgeWarnings]
      cases hkept : d.kept? before e with
      | none =>
        obtain ⟨w, hw, hwarns⟩ := hn.readEdge_of_refused number h hlink hkept
        rw [hw]
        exact Tally.warning hwarns.severity_eq
      | some a =>
        rw [hn.readEdge_of_kept number h hkept]
        exact Tally.nil

/-- How many warnings edges leave. -/
def Description.edgeLosses (d : Description) (es : List Edge) : Nat :=
  (es.map d.looseEnds).sum + d.refusals es

theorem Description.edgeLosses_append_singleton (d : Description) (before : List Edge) (e : Edge) :
    d.edgeLosses (before ++ [e]) =
      d.edgeLosses before + (d.looseEnds e + (d.refuses before e).toNat) := by
  rw [edgeLosses, edgeLosses, refusals_append_singleton, List.map_append, List.sum_append,
    List.map_singleton, List.sum_singleton]
  omega

/-- Edges leave as many warnings as they add losses to those of the edges before them. -/
theorem tally_readEdges (hn : NodesRead d index m) (h : EdgesRead d before m extended)
    (es : List Edge) :
    ∃ losses, d.edgeLosses (before ++ es) = d.edgeLosses before + losses ∧
      Tally (Journal.diagnostics (readEdges index m extended before.length es).journal)
        losses 0 := by
  induction es generalizing before m extended with
  | nil => exact ⟨0, by rw [List.append_nil, Nat.add_zero], Tally.nil⟩
  | cons e es ih =>
    obtain ⟨m', extended', noted, hn', h', heq, hnoted, -⟩ := h.step hn e es
    obtain ⟨losses, hsum, htally⟩ := ih hn' h'
    have hsplit : before ++ e :: es = before ++ [e] ++ es := by simp
    refine ⟨d.looseEnds e + (d.refuses before e).toNat + losses, ?_, ?_⟩
    · rw [hsplit, hsum, Description.edgeLosses_append_singleton, Nat.add_assoc]
    · rw [heq, Reading.journal_after, Journal.diagnostics_append, hnoted]
      exact (hn.tally_edgeWarnings h before.length e).append htally

/-! ## Nodes -/

/-- A class that is read has the members that its blocks declare. -/
theorem Node.readClass_blocks (h : n.readClass = (ds, .ok c)) :
    Declaration.readAttributes (Text.trim n.name) n.attributes = .ok c.attributes ∧
      Declaration.readMethods (Text.trim n.name) n.methods = (ds, .ok c.methods) := by
  simp only [readClass] at h
  split at h
  · exact absurd (congrArg Prod.snd h) (by simp)
  · split at h
    · exact absurd (congrArg Prod.snd h) (by simp)
    · next attributes hattributes =>
      cases hmethods : Declaration.readMethods (Text.trim n.name) n.methods with
      | mk ds' result =>
        rw [hmethods] at h
        obtain ⟨rfl, hresult⟩ := Prod.mk.inj h
        cases result with
        | error f => exact absurd hresult (by simp [Except.map])
        | ok methods =>
          rw [← Except.ok.inj hresult, hattributes]
          exact ⟨rfl, rfl⟩

/-- A node of a class leaves a warning for each stray of its methods, and any other node an info. -/
theorem Node.tally_notes (hread : n.isClass → ∃ ds c, n.readClass = (ds, .ok c)) :
    Tally n.notes (if n.isClass then Declaration.strays n.methods else 0)
      (!n.isClass).toNat := by
  cases hclass : n.isClass with
  | false =>
    rw [notes, hclass]
    exact Tally.info rfl
  | true =>
    obtain ⟨ds, c, hread⟩ := hread hclass
    obtain ⟨-, hmethods⟩ := readClass_blocks hread
    have htally := Declaration.tally_readMethods (congrArg Prod.snd hmethods)
    rw [hmethods] at htally
    rw [notes, hclass, if_pos rfl, if_pos rfl, hread]
    exact htally

theorem tally_notes {ns : List Node}
    (hread : ∀ n ∈ ns, n.isClass → ∃ ds c, n.readClass = (ds, .ok c)) :
    Tally (ns.flatMap Node.notes)
      ((ns.filter Node.isClass).map fun n => Declaration.strays n.methods).sum
      (ns.countP (!·.isClass)) := by
  induction ns with
  | nil => exact Tally.nil
  | cons n ns ih =>
    obtain ⟨hn, hns⟩ := List.forall_mem_cons.mp hread
    have htally := (Node.tally_notes hn).append (ih hns)
    cases hclass : n.isClass <;> simpa [hclass, Nat.add_comm] using htally

/-- A reading that does not end early leaves a warning for each loose end, each edge that is refused
and each stray, an info for each bystander, and nothing else. -/
theorem Description.tally_readInto (h : (d.readInto {}).failure = none) :
    Tally (Journal.diagnostics (d.readInto {}).journal)
      (d.strays + ((d.edges.map d.looseEnds).sum + d.refusals d.edges)) d.bystanders := by
  obtain ⟨hnodes, -, hjournal⟩ := readInto_of_failure_eq_none h
  have hacceptable := readNodes_failure_eq_none_iff.mp hnodes
  obtain ⟨-, hnotes⟩ := readNodes_of_acceptable hacceptable
  obtain ⟨losses, hsum, hedges⟩ :=
    tally_readEdges (nodesRead_readNodes hnodes) (edgesRead_readNodes d) d.edges
  have hall : (d.edges.map d.looseEnds).sum + d.refusals d.edges = losses := by
    rw [List.nil_append] at hsum
    exact hsum.trans (Nat.zero_add losses)
  rw [hjournal, hnotes, hall]
  exact (tally_notes hacceptable.readable).append hedges

end Blueprint

import Blueprint.Declaration.Block
import Blueprint.Description
import Blueprint.Journal
import Blueprint.Model

/-!
# Reading a description into a model

Nodes come first, in order. A node that shares its id with an earlier one ends the reading; one that
stands for no class is passed over; any other becomes a class, and ends the reading if it has no
name, holds a line that is no declaration, or has the name of a class of the model.

Edges never end it. An edge whose two ends are nodes of classes becomes an association, unless it
makes a class extend itself or, after another edge, extend a second one. Each edge that is left out
leaves a warning with its index.

Reading only adds to a model. What was added before a failure stays.
-/

namespace Blueprint

/-- Where a reading has come to. -/
structure Reading where
  /-- The model. -/
  model : Model
  /-- What was noted. -/
  journal : Journal := []
  /-- Why the reading ended early. -/
  failure : Option Failure := none
  deriving DecidableEq, Repr

/-- A reading that comes after something was noted. -/
def Reading.after (j : Journal) (r : Reading) : Reading := { r with journal := j ++ r.journal }

/-! ## Nodes -/

/-- The names of the classes that nodes stand for, by node id. -/
abbrev ClassIndex := List (Int × String)

/-- The class that a node stands for, and the warnings about its methods. -/
def Node.readClass (n : Node) : List Diagnostic × Except Failure ClassDecl :=
  let name := Text.trim n.name
  if name = "" then ([], .error (.missingClassName n.id))
  else
    match Declaration.readAttributes name n.attributes with
    | .error f => ([], .error f)
    | .ok attributes =>
      let (ds, methods) := Declaration.readMethods name n.methods
      (ds, methods.map fun methods => { name, attributes, methods })

/-- The note that a node stands for no class. -/
def Node.skipped (n : Node) : Diagnostic :=
  .info ("skipped node " ++ toString n.id ++ " of type " ++ n.type.getD "") none

/-- Reads nodes, after those with the ids `seen`, and indexes their classes. -/
def readNodes (m : Model) (seen : List Int) : List Node → ClassIndex × Reading
  | [] => ([], { model := m })
  | n :: ns =>
    if n.id ∈ seen then ([], { model := m, failure := some (.duplicateNodeId n.id) })
    else if !n.isClass then
      let (index, r) := readNodes m (n.id :: seen) ns
      (index, r.after [.diagnostic n.skipped])
    else
      match n.readClass with
      | (ds, .error f) => ([], { model := m, journal := .ofDiagnostics ds, failure := some f })
      | (ds, .ok c) =>
        let noted := Journal.ofDiagnostics ds ++
          [.event (.classRead c.name c.attributes.length c.methods.length)]
        match m.addClass c with
        | .error f => ([], { model := m, journal := noted, failure := some f })
        | .ok m =>
          let (index, r) := readNodes m (n.id :: seen) ns
          ((n.id, c.name) :: index, r.after noted)

/-! ## Edges -/

/-- What a warning about an edge that is left out starts with. -/
def droppedEdge (number : Nat) : String := "dropped edge " ++ toString number ++ ": "

/-- The class at an end of an edge, or the warning that there is none. -/
def readEnd (index : ClassIndex) (number : Nat) (place : String) (id : Option Int) :
    Except Diagnostic String :=
  match id with
  | none => .error (.warning (droppedEdge number ++ "no " ++ place ++ " node") none)
  | some id =>
    match index.lookup id with
    | some name => .ok name
    | none =>
      .error (.warning
        (droppedEdge number ++ place ++ " node " ++ toString id ++ " is not a class") none)

/-- The association of an edge between two classes. -/
def Edge.association (e : Edge) (departure arrival : String) : Association :=
  { kind := .ofEdge e.type e.aggregationType
    departure, arrival
    label := e.middleLabel
    arrivalMultiplicity := .ofLabel e.endLabel
    departureMultiplicity := .ofLabel e.startLabel
    directionality := e.directionality }

/-- The association that an edge becomes, or the warnings that it is left out. `extended` are the
classes that extend another one after an earlier edge. -/
def readEdge (index : ClassIndex) (extended : List String) (number : Nat) (e : Edge) :
    Except (List Diagnostic) Association :=
  match readEnd index number "start" e.start, readEnd index number "end" e.stop with
  | .error d, .error d' => .error [d, d']
  | .error d, .ok _ | .ok _, .error d => .error [d]
  | .ok departure, .ok arrival =>
    let a := e.association departure arrival
    if a.kind ≠ .generalization then .ok a
    else if departure = arrival then
      .error [.warning (droppedEdge number ++ departure ++ " cannot extend itself")
        (some { className := departure })]
    else if departure ∈ extended then
      .error [.warning
        (droppedEdge number ++ departure ++ " already has a superclass, ignoring " ++ arrival)
        (some { className := departure })]
    else .ok a

/-- Adds an association, which makes its departure extend its arrival if it is of that kind. -/
def Model.relate (m : Model) (a : Association) : Model × Option Failure :=
  let m := if a.kind = .generalization then
      m.modifyClass a.departure fun c => { c with superclass := some a.arrival }
    else m
  match m.addAssociation a with
  | .ok m => (m, none)
  | .error f => (m, some f)

/-- Reads edges, the first of which has index `number`. -/
def readEdges (index : ClassIndex) (m : Model) (extended : List String) (number : Nat) :
    List Edge → Reading
  | [] => { model := m }
  | e :: es =>
    match readEdge index extended number e with
    | .error ds => (readEdges index m extended (number + 1) es).after (.ofDiagnostics ds)
    | .ok a =>
      let noted : Journal :=
        [.event (.associationRead a.kind a.departure a.arrival a.arrivalMultiplicity)]
      match m.relate a with
      | (m, some f) => { model := m, journal := noted, failure := some f }
      | (m, none) =>
        let extended := if a.kind = .generalization then a.departure :: extended else extended
        (readEdges index m extended (number + 1) es).after noted

/-! ## Descriptions -/

/-- Reads nodes and edges. -/
def Description.readParts (d : Description) (m : Model) : Reading :=
  match readNodes m [] d.nodes with
  | (index, nodes) =>
    if nodes.failure.isSome then nodes
    else
      let noted := nodes.journal ++ [.event (.classesRead nodes.model.classes.length)]
      let edges := readEdges index nodes.model [] 0 d.edges
      if edges.failure.isSome then edges.after noted
      else
        let all := noted ++ edges.journal
        { edges with
          journal := all ++ [.event (.associationsRead edges.model.associations.length
            (Journal.diagnostics all).length)] }

/-- Reads a description into a model. -/
def Description.readInto (d : Description) (m : Model) : Reading :=
  let r : Reading := match d.kindFailure? with
    | some f => { model := m, failure := some f }
    | none => d.readParts m
  { r with journal := .within (.reading d.nodes.length d.edges.length) r.journal }

/-- Reads the description that a text holds into a model. -/
def Model.readText (m : Model) (text : String) : Reading :=
  match Description.ofText text with
  | .error f => { model := m, failure := some f }
  | .ok d => d.readInto m

end Blueprint

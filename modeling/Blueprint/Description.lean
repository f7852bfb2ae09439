import Blueprint.Failure
import Blueprint.Json.Value
import Blueprint.Text.Blank

/-!
# Descriptions of diagrams

A saved diagram: nodes with their free text, and edges between node ids. Nothing is checked here but
the types of the fields. A field that is not given is `none` or empty; a text that is given may be
empty as well.
-/

namespace Blueprint

/-- A node of a saved diagram. -/
structure Node where
  /-- What edges refer to it by. -/
  id : Int := 0
  /-- What it stands for. -/
  type : Option String := none
  /-- The name. -/
  name : String := ""
  /-- A block of attribute lines. -/
  attributes : String := ""
  /-- A block of method lines. -/
  methods : String := ""
  deriving DecidableEq, Repr

/-- Whether a node stands for a class. One without a type does. -/
def Node.isClass (n : Node) : Bool :=
  match n.type with
  | none => true
  | some t => t == "ClassNode" || t == "InterfaceNode"

/-- An edge of a saved diagram. -/
structure Edge where
  /-- The id of the node it leaves. -/
  start : Option Int := none
  /-- The id of the node it leads to. -/
  stop : Option Int := none
  /-- The label at its start. -/
  startLabel : Option String := none
  /-- The label in its middle. -/
  middleLabel : Option String := none
  /-- The directions it can be walked in. -/
  directionality : Option String := none
  /-- The label at its end. -/
  endLabel : Option String := none
  /-- What it means. -/
  type : Option String := none
  /-- The sub-kind of a generalization. -/
  generalizationType : Option String := none
  /-- The sub-kind of an aggregation. -/
  aggregationType : Option String := none
  deriving DecidableEq, Repr

/-- A saved diagram. -/
structure Description where
  /-- The kind of diagram. -/
  diagram : Option String := none
  /-- The nodes. -/
  nodes : List Node := []
  /-- The edges. -/
  edges : List Edge := []
  deriving DecidableEq, Repr

/-! ## Shapes in JSON -/

/-- A field that sets an optional text. -/
def optionalText {σ : Type} (key : String) (set : Option String → σ → σ)
    (otherKey : Option String) : Json.Field σ :=
  { key, otherKey, read := set <$> Json.readOption Json.readString }

/-- A field that sets a text. -/
def plainText {σ : Type} (key : String) (set : String → σ → σ) : Json.Field σ :=
  { key, read := set <$> Json.readString }

/-- A field that sets an optional node id. -/
def optionalId {σ : Type} (key : String) (set : Option Int → σ → σ) : Json.Field σ :=
  { key, read := set <$> Json.readOption Json.readInt64 }

/-- The shape of a node. -/
def Node.shape : Json.Shape Node where
  name := "NodeDescription"
  empty := {}
  fields := [
    { key := "id", isRequired := true, read := (fun v n => { n with id := v }) <$> Json.readInt64 },
    optionalText "type" (fun v n => { n with type := v }) none,
    plainText "name" fun v n => { n with name := v },
    plainText "attributes" fun v n => { n with attributes := v },
    plainText "methods" fun v n => { n with methods := v }]

/-- The shape of an edge. -/
def Edge.shape : Json.Shape Edge where
  name := "EdgeDescription"
  empty := {}
  fields := [
    optionalId "start" fun v e => { e with start := v },
    optionalId "end" fun v e => { e with stop := v },
    optionalText "startLabel" (fun v e => { e with startLabel := v }) none,
    optionalText "middleLabel" (fun v e => { e with middleLabel := v }) none,
    optionalText "directionality" (fun v e => { e with directionality := v }) none,
    optionalText "endLabel" (fun v e => { e with endLabel := v }) none,
    optionalText "type" (fun v e => { e with type := v }) none,
    optionalText "Generalization Type" (fun v e => { e with generalizationType := v })
      (some "generalizationType"),
    optionalText "Aggregation Type" (fun v e => { e with aggregationType := v })
      (some "aggregationType")]

namespace Description

/-- The shape of a diagram. -/
def shape : Json.Shape Description where
  name := "DiagramDescription"
  empty := {}
  fields := [
    optionalText "diagram" (fun v d => { d with diagram := v }) none,
    { key := "nodes"
      read := (fun v d => { d with nodes := v }) <$> Json.readList Node.shape.read },
    { key := "edges"
      read := (fun v d => { d with edges := v }) <$> Json.readList Edge.shape.read }]

/-- Reads the description that a text holds. -/
def ofText (text : String) : Except Failure Description :=
  match shape.read.run? text with
  | .ok d => .ok d
  | .error e => .error (.malformedText e.message e.position.line e.position.column)

/-- Whether a text looks like a description: an object with a list of nodes. -/
def isLikely (text : String) : Bool :=
  match Json.Value.ofText text with
  | .ok v => ((v.get? "nodes").map Json.Value.isList).getD false
  | .error _ => false

/-- The failure of a description that says it is of another kind of diagram. -/
def kindFailure? (d : Description) : Option Failure :=
  match d.diagram.map Text.trim with
  | none => none
  | some kind =>
    if kind = "ClassDiagram" then none
    else some (.invalidInput ("expected a ClassDiagram document, found " ++ kind))

end Description

end Blueprint

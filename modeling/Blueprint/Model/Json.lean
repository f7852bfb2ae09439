import Blueprint.Diagnostic
import Blueprint.Json.Value
import Blueprint.Model

/-!
# Models in JSON

The JSON form of a model and of diagnostics. The keys of an object stand in alphabetical order.
-/

namespace Blueprint

open Json (Value)

/-- The JSON form of a visibility. -/
def Visibility.json (v : Visibility) : Value := .text v.keyword

/-- The JSON form of an attribute. -/
def Attribute.json (a : Attribute) : Value :=
  .object [("name", .text a.name), ("type", .text a.type), ("visibility", a.visibility.json)]

/-- The JSON form of a parameter. -/
def Parameter.json (p : Parameter) : Value :=
  .object [("name", .text p.name), ("type", .text p.type)]

/-- The JSON form of a method. -/
def Method.json (m : Method) : Value :=
  .object [("name", .text m.name), ("parameters", .list (m.parameters.map Parameter.json)),
    ("return_type", .text m.returnType), ("visibility", m.visibility.json)]

/-- The JSON form of a class. -/
def ClassDecl.json (c : ClassDecl) : Value :=
  .object [("attributes", .list (c.attributes.map Attribute.json)),
    ("methods", .list (c.methods.map Method.json)), ("name", .text c.name),
    ("superclass", .optional .text c.superclass), ("visibility", c.visibility.json)]

/-- The JSON form of a multiplicity. -/
def Multiplicity.json : Multiplicity → Value
  | one => .text "One"
  | zeroOrOne => .text "ZeroOrOne"
  | many => .text "Many"
  | zeroOrMany => .text "ZeroOrMany"
  | oneOrMany => .text "OneOrMany"
  | unspecified => .text "Unspecified"
  | custom label => .object [("Custom", .text label)]

/-- The JSON form of an association. -/
def Association.json (a : Association) : Value :=
  .object [("arrival", .text a.arrival), ("arrival_multiplicity", a.arrivalMultiplicity.json),
    ("departure", .text a.departure), ("departure_multiplicity", a.departureMultiplicity.json),
    ("directionality", .optional .text a.directionality), ("kind", .text a.kind.name),
    ("label", .optional .text a.label)]

/-- The JSON form of a model. -/
def Model.json (m : Model) : Value :=
  .object [("associations", .list (m.associations.map Association.json)),
    ("classes", .list (m.classes.map ClassDecl.json))]

/-- The JSON form of a location. -/
def Location.json (l : Location) : Value :=
  .object [("block", .optional (fun b => .text b.name) l.block), ("class", .text l.className),
    ("column", .optional .nat l.column), ("line", .optional .nat l.line)]

/-- The JSON form of a diagnostic. -/
def Diagnostic.json (d : Diagnostic) : Value :=
  .object [("location", .optional Location.json d.location), ("message", .text d.message),
    ("severity", .text d.severity.name)]

/-- The JSON form of a model with the diagnostics of its reading. -/
def inspectionJson (m : Model) (ds : List Diagnostic) : Value :=
  .object [("diagnostics", .object [("entries", .list (ds.map Diagnostic.json))]),
    ("model", m.json)]

end Blueprint

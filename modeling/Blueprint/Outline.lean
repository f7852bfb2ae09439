import Blueprint.Model

/-!
# Outlines

A model in words: a line for every class, under it one for each of its members, then one for every
association, and last the numbers of both. Members are written as declaration lines, so that they
can be read back.
-/

namespace Blueprint

/-- A parameter as a type and a name. -/
def Parameter.outline (p : Parameter) : String := p.type ++ " " ++ p.name

/-- Parameters, separated by commas. -/
def parameterList (ps : List Parameter) : String := ", ".intercalate (ps.map Parameter.outline)

/-- An attribute as a declaration line. -/
def Attribute.outline (a : Attribute) : String :=
  String.singleton a.visibility.marker ++ a.name ++ ": " ++ a.type

/-- A method as a declaration line. -/
def Method.outline (m : Method) : String :=
  String.singleton m.visibility.marker ++ m.name ++ "(" ++ parameterList m.parameters ++ "): " ++
    m.returnType

/-- The lines of attributes under their class. -/
def attributeLines (as : List Attribute) : List String := as.map fun a => "  " ++ a.outline

/-- The lines of methods under their class. -/
def methodLines (ms : List Method) : List String := ms.map fun m => "  " ++ m.outline

/-- The lines of a class. -/
def ClassDecl.outline (c : ClassDecl) : List String :=
  let extension := match c.superclass with
    | some s => " extends " ++ s
    | none => ""
  ("class " ++ c.name ++ extension) ::
    (attributeLines c.attributes ++ methodLines c.methods)

/-- The line of an association. -/
def Association.outline (a : Association) : String :=
  let multiplicity := if a.arrivalMultiplicity = .unspecified then ""
    else " [" ++ a.arrivalMultiplicity.label ++ "]"
  a.kind.name ++ " " ++ a.departure ++ " -> " ++ a.arrival ++ multiplicity

/-- The lines of a model. -/
def Model.outlineLines (m : Model) : List String :=
  m.classes.flatMap ClassDecl.outline ++ m.associations.map Association.outline ++
    [toString m.classes.length ++ " class(es), " ++ toString m.associations.length ++
      " association(s)"]

/-- A model in words. -/
def Model.outline (m : Model) : String := String.join (m.outlineLines.map (· ++ "\n"))

end Blueprint

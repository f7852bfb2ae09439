import Blueprint.Model
import Blueprint.Naming
import Blueprint.Text.LowerCase

/-!
# Fields for associations

Every association that leaves a class, generalizations apart, becomes a field of the class. It is
named after the class it leads to, in lower case, and numbered if an attribute or an earlier field
has the name.

The names depend on nothing but the class and the associations that leave it. So a class finds the
same names for its superclass as the superclass does for itself.
-/

namespace Blueprint.Skeleton

/-- The field for an association. -/
structure Field where
  /-- The name. -/
  name : String
  /-- The wanted name, if it was taken. -/
  renamedFrom : Option String := none
  /-- The class that the association leads to. -/
  elementType : String
  /-- Whether the field holds a list. -/
  isMany : Bool
  /-- The kind of the association. -/
  kind : RelationKind
  deriving DecidableEq, Repr

namespace Field

/-- The declared type. -/
def type (f : Field) : String := if f.isMany then "List<" ++ f.elementType ++ ">" else f.elementType

/-- Whether the field is for an aggregation. -/
def isAggregation (f : Field) : Bool := f.kind == .aggregation

/-- Whether the field is for a composition. -/
def isComposition (f : Field) : Bool := f.kind == .composition

/-- The wanted parameter for a field. -/
def parameter (f : Field) : Parameter := { type := f.type, name := f.name }

end Field

/-- The fields for associations of a class in which the names `taken` stand for something. -/
def fieldsFrom (taken : List String) : List Association → List Field
  | [] => []
  | a :: as =>
    if a.kind = .generalization then fieldsFrom taken as
    else
      let base := Text.lower a.arrival
      let name := freshName base "" taken
      { name
        renamedFrom := if name = base then none else some base
        elementType := a.arrival
        isMany := a.isMany
        kind := a.kind } :: fieldsFrom (taken ++ [name]) as

/-- The fields for the associations that leave a class. -/
def fields (m : Model) (c : ClassDecl) : List Field :=
  fieldsFrom (c.attributes.map Attribute.name) (m.departing c.name)

/-- The notes on fields that got another name than the wanted one. -/
def fieldsRenamed (className : String) (fs : List Field) : List Diagnostic :=
  fs.filterMap fun f => f.renamedFrom.map fun base =>
    .info ("field " ++ base ++ " renamed to " ++ f.name) (some { className })

end Blueprint.Skeleton

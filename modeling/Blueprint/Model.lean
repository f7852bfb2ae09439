import Blueprint.Failure
import Blueprint.Relation
import Blueprint.Visibility

/-!
# The class model

Classes with their members, and the associations between them, in the order in which they came.

`addClass` and `addAssociation` keep two rules: no two classes share a name, and both ends of an
association name a class. A class is looked up by name, and the first of that name is meant; so the
operations stay defined on a model whose classes were renamed behind the back of these rules.
-/

namespace Blueprint

/-- An attribute of a class. -/
structure Attribute where
  /-- The name. -/
  name : String
  /-- The name of the type. -/
  type : String
  /-- Who may see it. -/
  visibility : Visibility := .priv
  deriving DecidableEq, Repr

/-- A parameter of a method. -/
structure Parameter where
  /-- The name of the type. -/
  type : String
  /-- The name. -/
  name : String
  deriving DecidableEq, Repr

/-- A method of a class. Bodies are not modelled. -/
structure Method where
  /-- The name. -/
  name : String
  /-- The name of the result's type, or nothing. -/
  returnType : String
  /-- Who may see it. -/
  visibility : Visibility := .priv
  /-- The parameters. -/
  parameters : List Parameter := []
  deriving DecidableEq, Repr

/-- A class. -/
structure ClassDecl where
  /-- The name. -/
  name : String
  /-- Who may see it. -/
  visibility : Visibility := .pub
  /-- The attributes. -/
  attributes : List Attribute := []
  /-- The methods. -/
  methods : List Method := []
  /-- The name of the class it extends. -/
  superclass : Option String := none
  deriving DecidableEq, Repr

/-- A relation from one class to another. -/
structure Association where
  /-- What it means. -/
  kind : RelationKind
  /-- The name of the class it leaves. -/
  departure : String
  /-- The name of the class it leads to. -/
  arrival : String
  /-- A free label. -/
  label : Option String := none
  /-- How many objects stand at the arrival. -/
  arrivalMultiplicity : Multiplicity := .unspecified
  /-- How many objects stand at the departure. -/
  departureMultiplicity : Multiplicity := .unspecified
  /-- A free label for the directions it can be walked in. -/
  directionality : Option String := none
  deriving DecidableEq, Repr

/-- Whether more than one object may stand at the arrival. -/
def Association.isMany (a : Association) : Bool := a.arrivalMultiplicity.isMany

/-- Classes and the associations between them. -/
structure Model where
  /-- The classes. -/
  classes : List ClassDecl := []
  /-- The associations. -/
  associations : List Association := []
  deriving DecidableEq, Repr

/-- Changes the first member of a list that satisfies `p`. -/
def modifyFirst {α : Type} (p : α → Bool) (f : α → α) : List α → List α
  | [] => []
  | a :: as => if p a then f a :: as else a :: modifyFirst p f as

namespace Model

/-- The first class of a name. -/
def class? (m : Model) (name : String) : Option ClassDecl := m.classes.find? (·.name == name)

/-- Adds a class whose name is new. -/
def addClass (m : Model) (c : ClassDecl) : Except Failure Model :=
  if (m.class? c.name).isSome then .error (.duplicateClassName c.name)
  else .ok { m with classes := m.classes ++ [c] }

/-- Adds an association between two classes of the model. -/
def addAssociation (m : Model) (a : Association) : Except Failure Model :=
  if (m.class? a.departure).isNone then .error (.unknownClass a.departure)
  else if (m.class? a.arrival).isNone then .error (.unknownClass a.arrival)
  else .ok { m with associations := m.associations ++ [a] }

/-- Changes the first class of a name, if there is one. -/
def modifyClass (m : Model) (name : String) (f : ClassDecl → ClassDecl) : Model :=
  { m with classes := modifyFirst (·.name == name) f m.classes }

/-- The associations that leave a class. -/
def departing (m : Model) (name : String) : List Association :=
  m.associations.filter (·.departure == name)

/-- The class that a class extends. -/
def superclassOf (m : Model) (c : ClassDecl) : Option ClassDecl := c.superclass.bind m.class?

end Model

end Blueprint

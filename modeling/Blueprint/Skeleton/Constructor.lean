import Blueprint.Skeleton.Field

/-!
# Constructors

A constructor takes a parameter for every attribute of its class, then the parameters that it
forwards to the constructor of the superclass (one for each attribute and each aggregation of the
superclass), then one for every aggregation of its class. A name that an earlier parameter has is
numbered. Compositions are not passed in: the body makes them.
-/

namespace Blueprint.Skeleton

/-- What a constructor declares and does. -/
structure Constructor where
  /-- The parameters. -/
  parameters : List Parameter
  /-- The arguments for the constructor of the superclass, if there is one. -/
  superArguments : Option (List String)
  /-- Fields and the parameters that they are set to. -/
  assignments : List (String × String)
  /-- Fields that are made. -/
  compositions : List Field
  deriving DecidableEq, Repr

namespace Constructor

/-- The wanted parameters for attributes. -/
def ofAttributes (as : List Attribute) : List Parameter :=
  as.map fun a => { type := a.type, name := a.name }

/-- The wanted parameters for aggregations. -/
def ofAggregations (fs : List Field) : List Parameter :=
  (fs.filter Field.isAggregation).map Field.parameter

/-- The wanted parameters that a class forwards, if it extends another one. -/
def forwarded (m : Model) (c : ClassDecl) : Except Failure (Option (List Parameter)) :=
  match c.superclass with
  | none => .ok none
  | some name =>
    match m.superclassOf c with
    | none => .error (.unknownClass name)
    | some s => .ok (some (ofAttributes s.attributes ++ ofAggregations (fields m s)))

/-- The constructor of a class from the parameters that it forwards. -/
def build (c : ClassDecl) (fs : List Field) (inherited : Option (List Parameter)) : Constructor :=
  let own := ofAttributes c.attributes
  let middle := inherited.getD []
  let last := ofAggregations fs
  let wanted := own ++ middle ++ last
  let names := freshNames "" [] (wanted.map Parameter.name)
  let later := names.drop own.length
  { parameters := List.zipWith (fun p name => { p with name }) wanted names
    superArguments := inherited.map fun _ => later.take middle.length
    assignments := ((own ++ last).map Parameter.name).zip
      (names.take own.length ++ later.drop middle.length)
    compositions := fs.filter Field.isComposition }

/-- The constructor of a class with its fields. -/
def ofClass (m : Model) (c : ClassDecl) (fs : List Field) : Except Failure Constructor :=
  (forwarded m c).map (build c fs)

end Constructor

end Blueprint.Skeleton

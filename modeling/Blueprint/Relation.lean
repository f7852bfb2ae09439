import Blueprint.Text.Blank

/-!
# Relations between classes

The kind of a relation, and how many objects stand at an end of it. Both are read off free labels of
a diagram, and every label is accepted: an unknown kind is `other`, an unknown multiplicity is kept
as it stands.
-/

namespace Blueprint

/-- What a relation between two classes means. -/
inductive RelationKind where
  /-- The departure extends the arrival. -/
  | generalization
  /-- The departure refers to the arrival. -/
  | aggregation
  /-- The departure owns the arrival. -/
  | composition
  /-- Any other relation. -/
  | other
  deriving DecidableEq, Repr

namespace RelationKind

/-- The name of a kind. -/
def name : RelationKind → String
  | .generalization => "Generalization"
  | .aggregation => "Aggregation"
  | .composition => "Composition"
  | .other => "Other"

/-- The kind of an edge, from its type and the sub-kind of an aggregation.

One `Edge` at the end of the type is left out of account, and an aggregation whose sub-kind says so
is a composition. -/
def ofEdge (edgeType aggregationType : Option String) : RelationKind :=
  match edgeType with
  | none => .other
  | some t =>
    let t := Text.trim t
    let base := (Text.dropEnding? "Edge" t).getD t
    if base = "Generalization" then .generalization
    else if base = "Aggregation" then
      if aggregationType.map Text.trim = some "Composition" then .composition else .aggregation
    else if base = "Composition" then .composition
    else .other

end RelationKind

/-- How many objects stand at an end of a relation. -/
inductive Multiplicity where
  /-- Exactly one, `1`. -/
  | one
  /-- At most one, `0..1`. -/
  | zeroOrOne
  /-- Any number, `*`. -/
  | many
  /-- Any number, `0..*`. -/
  | zeroOrMany
  /-- At least one, `1..*`. -/
  | oneOrMany
  /-- No label, or a blank one. -/
  | unspecified
  /-- Any other label. -/
  | custom (label : String)
  deriving DecidableEq, Repr

namespace Multiplicity

/-- The multiplicity that a label gives. Blanks around it do not count. -/
def ofLabel (label : Option String) : Multiplicity :=
  match label.map Text.trim with
  | none => .unspecified
  | some t =>
    if t = "" then .unspecified
    else if t = "1" then .one
    else if t = "0..1" then .zeroOrOne
    else if t = "*" then .many
    else if t = "0..*" then .zeroOrMany
    else if t = "1..*" then .oneOrMany
    else .custom t

/-- Whether more than one object may stand there. -/
def isMany : Multiplicity → Bool
  | .many | .zeroOrMany | .oneOrMany => true
  | _ => false

/-- The label that gives a multiplicity. -/
def label : Multiplicity → String
  | .one => "1"
  | .zeroOrOne => "0..1"
  | .many => "*"
  | .zeroOrMany => "0..*"
  | .oneOrMany => "1..*"
  | .unspecified => ""
  | .custom t => t

end Multiplicity

end Blueprint

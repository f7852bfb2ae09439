import Blueprint.Proofs.Skeleton.Source

/-!
# What surrounds a class

The source of a class takes little from its model: the associations that leave the class, and of the
class that it extends the name, the attributes and the associations that leave that one. Models that
agree on these have the same source for the class, whatever else they hold and in whatever order. In
particular nothing is taken from what the superclass extends in its turn.
-/

namespace Blueprint.Skeleton

variable {m m' : Model} {c : ClassDecl}

/-- Two models agree on what the source of a class takes from them. -/
structure SameAround (m m' : Model) (c : ClassDecl) : Prop where
  /-- The same associations leave the class, in the same order. -/
  departing_eq : m'.departing c.name = m.departing c.name
  /-- The class extends nothing, or a class of neither model, or a class of both that has the same
  name and attributes and is left by the same associations in the same order. -/
  superclass : c.superclass = none ∨ (m.superclassOf c = none ∧ m'.superclassOf c = none) ∨
    ∃ s s', m.superclassOf c = some s ∧ m'.superclassOf c = some s' ∧ s'.name = s.name ∧
      s'.attributes = s.attributes ∧ m'.departing s'.name = m.departing s.name

/-- What a class hands on depends on the class that it extends. -/
theorem SameAround.forwarded_eq (h : SameAround m m' c) :
    Constructor.forwarded m' c = Constructor.forwarded m c := by
  rcases h.superclass with hnone | ⟨hunknown, hunknown'⟩ |
    ⟨s, s', hs, hs', -, hattributes, hdeparting⟩
  · rw [Constructor.forwarded, Constructor.forwarded, hnone]
  · rw [Constructor.forwarded, Constructor.forwarded, hunknown, hunknown']
  · rw [Constructor.forwarded, Constructor.forwarded, hs, hs']
    simp only [hattributes, fields_eq_of_same hattributes hdeparting]

theorem SameAround.fileOfClass_eq (h : SameAround m m' c) (config : Config) :
    fileOfClass config m' c = fileOfClass config m c :=
  fileOfClass_of_forwarded_eq (fields_eq_of_same rfl h.departing_eq) h.forwarded_eq

/-! ## Other classes and associations -/

/-- A class is looked up among those of its name. -/
theorem class?_eq_head? (m : Model) (name : String) :
    m.class? name = (m.classes.filter (·.name == name)).head? := by
  rw [Model.class?, List.head?_filter]

/-- Models agree around a class if the same associations leave it, and if they have the same classes
of the name that it extends and the same associations leave these. -/
theorem sameAround_of_filter (hown : m'.departing c.name = m.departing c.name)
    (hsuper : ∀ name, c.superclass = some name →
      m'.classes.filter (·.name == name) = m.classes.filter (·.name == name) ∧
        m'.departing name = m.departing name) : SameAround m m' c := by
  refine ⟨hown, ?_⟩
  cases hname : c.superclass with
  | none => exact Or.inl rfl
  | some name =>
    right
    obtain ⟨hclasses, hdeparting⟩ := hsuper name hname
    have hlookup (k : Model) : k.superclassOf c = k.class? name := by
      rw [Model.superclassOf, hname, Option.bind_some]
    have hsame : m'.superclassOf c = m.superclassOf c := by
      rw [hlookup, hlookup, class?_eq_head?, class?_eq_head?, hclasses]
    cases hs : m.superclassOf c with
    | none => exact Or.inl ⟨rfl, hsame.trans hs⟩
    | some s =>
      have hfound : m.class? name = some s := (hlookup m).symm.trans hs
      obtain rfl : s.name = name := by
        simpa using List.find?_some (p := fun d : ClassDecl => d.name == name) hfound
      exact Or.inr ⟨s, s, rfl, hsame.trans hs, rfl, rfl, hdeparting⟩

end Blueprint.Skeleton

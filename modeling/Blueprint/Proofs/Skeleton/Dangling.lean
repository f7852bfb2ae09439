import Blueprint.Proofs.Skeleton.Source

/-!
# When class sources fail

Sources are made one class after another, and nothing but a superclass that the model does not have
can end this. The first class that extends such a one does: the failure names its superclass, and
what was noted on the fields of the classes so far, its own included, stays.
-/

namespace Blueprint.Skeleton

variable {m : Model} {c : ClassDecl} {config : Config} {f : Failure}

/-- A class of a model that extends a class which the model does not have, after classes that do
not. -/
structure FirstDangling (m : Model) (before : List ClassDecl) (c : ClassDecl) (name : String) :
    Prop where
  /-- The classes are in this order. -/
  classes_eq : ∃ after, m.classes = before ++ c :: after
  /-- Classes before extend nothing, or a class of the model. -/
  known : ∀ d ∈ before, SuperclassKnown m d
  /-- The class extends something. -/
  superclass_eq : c.superclass = some name
  /-- There is no such class. -/
  unknown : name ∉ m.names

theorem not_superclassKnown_iff :
    ¬SuperclassKnown m c ↔ ∃ name, c.superclass = some name ∧ name ∉ m.names := by
  simp [SuperclassKnown]

/-! ## One class -/

/-- Nothing can be handed on to a superclass that the model does not have. -/
theorem forwarded_of_unknown {name : String} (hsuper : c.superclass = some name)
    (hunknown : name ∉ m.names) : Constructor.forwarded m c = .error (.unknownClass name) := by
  have hnone : m.superclassOf c = none := by
    rw [Model.superclassOf, hsuper, Option.bind_some, ← Option.isNone_iff_eq_none]
    exact Model.class?_isNone_iff.mpr hunknown
  rw [Constructor.forwarded, hsuper]
  simp only [hnone]

/-- A class whose superclass is unknown has no source. -/
theorem fileOfClass_of_unknown (config : Config) {name : String}
    (hsuper : c.superclass = some name) (hunknown : name ∉ m.names) :
    (fileOfClass config m c).2 = .error (.unknownClass name) := by
  rw [fileOfClass, Source.ofClass, Constructor.ofClass, forwarded_of_unknown hsuper hunknown]
  rfl

/-! ## All classes -/

/-- The sources of classes end with the first class that has none. What was noted so far stays. -/
theorem filesOfClasses_of_error {before : List ClassDecl}
    (hbefore : ∀ d ∈ before, SuperclassKnown m d) (hc : (fileOfClass config m c).2 = .error f)
    (after : List ClassDecl) :
    let made := filesOfClasses config m (before ++ c :: after)
    made.2 = .error f ∧ Journal.diagnostics made.1 =
      (before ++ [c]).flatMap fun d => fieldsRenamed d.name (fields m d) := by
  induction before with
  | nil => simpa using filesOfClasses_cons_of_error hc after
  | cons d ds ih =>
    obtain ⟨hd, hds⟩ := List.forall_mem_cons.mp hbefore
    obtain ⟨file, hfile, -⟩ := fileOfClass_of_superclassKnown config hd
    obtain ⟨hmade, hnotes⟩ := filesOfClasses_cons_of_ok hfile (ds ++ c :: after)
    obtain ⟨hrest, hjournal⟩ := ih hds
    refine ⟨?_, ?_⟩
    · rw [List.cons_append, hmade, hrest]
      rfl
    · rw [List.cons_append, hnotes, hjournal, List.cons_append, List.flatMap_cons]

/-- Where some superclass is unknown, there is a first class that extends such a one. -/
theorem exists_firstDangling (h : ¬∀ c ∈ m.classes, SuperclassKnown m c) :
    ∃ before c name, FirstDangling m before c name := by
  classical
  obtain ⟨c, hfound⟩ : ∃ c, m.classes.find? (fun c => ¬SuperclassKnown m c) = some c := by
    rw [← Option.isSome_iff_exists, List.find?_isSome]
    simpa using h
  obtain ⟨hc, before, after, hclasses, hbefore⟩ := List.find?_eq_some_iff_append.mp hfound
  obtain ⟨name, hsuper, hunknown⟩ := not_superclassKnown_iff.mp (of_decide_eq_true hc)
  exact ⟨before, c, name, ⟨after, hclasses⟩, fun d hd => by simpa using hbefore d hd, hsuper,
    hunknown⟩

/-- The sources of a model end with its first dangling superclass. -/
theorem FirstDangling.files {before : List ClassDecl} {name : String}
    (h : FirstDangling m before c name) (config : Config) :
    (files config m).2 = .error (.unknownClass name) ∧
      Journal.diagnostics (files config m).1 =
        (before ++ [c]).flatMap fun d => fieldsRenamed d.name (fields m d) := by
  obtain ⟨after, hclasses⟩ := h.classes_eq
  obtain ⟨hmade, hnotes⟩ := filesOfClasses_of_error h.known
    (fileOfClass_of_unknown config h.superclass_eq h.unknown) after
  rw [← hclasses] at hmade hnotes
  refine ⟨hmade, ?_⟩
  rw [Skeleton.files, Journal.diagnostics_within, Journal.diagnostics_append, hnotes, hmade]
  exact List.append_nil _

end Blueprint.Skeleton

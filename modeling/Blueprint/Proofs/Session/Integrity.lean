import Blueprint.Proofs.Model.Integrity
import Blueprint.Proofs.Session.Reading

/-!
# The integrity of sessions

The model of a session starts empty, and every step but one keeps it well-formed, whatever it is
given and whether or not it succeeds. The exception gives a class another name and asks nobody. So
as long as names stay, a name means one class, and both ends of an association can be looked up.
-/

namespace Blueprint

/-- Whether a step leaves the classes their names. -/
def Step.keepsNames : Step → Bool
  | .renameClass _ _ => false
  | _ => true

namespace Model

/-- A model, and what becomes of it where the classes keep their names. -/
inductive Changed (m : Model) : Model → Prop
  | same : Changed m m
  | cleared : Changed m {}
  | readText (text : String) : Changed m (m.readText text).model
  | addClass {m' : Model} {c : ClassDecl} : m.addClass c = .ok m' → Changed m m'
  | addAssociation {m' : Model} {a : Association} : m.addAssociation a = .ok m' → Changed m m'
  | modifyClass (name : String) {f : ClassDecl → ClassDecl} :
      (∀ c, (f c).name = c.name) → Changed m (m.modifyClass name f)

theorem WellFormed.changed {m m' : Model} (h : m.WellFormed) (hchanged : m.Changed m') :
    m'.WellFormed := by
  cases hchanged with
  | same => exact h
  | cleared => exact wellFormed_empty
  | readText text => exact h.readText text
  | addClass hadd => exact h.addClass hadd
  | addAssociation hadd => exact h.addAssociation hadd
  | modifyClass name hf => exact h.modifyClass hf

end Model

namespace Session

variable {s : Session} {t : Step} {ts : List Step} {f : Failure}

/-! ## One step -/

theorem changed_changeClass (s : Session) (className : String) {f : ClassDecl → ClassDecl}
    (hf : ∀ c, (f c).name = c.name) :
    s.model.Changed (s.changeClass className f).1.model := by
  rw [changeClass]
  split
  · exact .modifyClass className hf
  · exact .same

theorem about_fst (s : Session) (className : String) (reply : ClassDecl → Reply) :
    (s.about className reply).1 = s := by
  rw [about]
  split <;> rfl

/-- All that a step can do to the model if it keeps the names. -/
theorem changed_step (s : Session) (ht : t.keepsNames) :
    s.model.Changed (s.step t).1.model := by
  have hsame {s' : Session} (h : s' = s) : s.model.Changed s'.model := h ▸ .same
  cases t with
  | readText text => exact .readText text
  | addClass c =>
    rw [step]
    cases hadd : s.model.addClass c with
    | ok m => exact .addClass hadd
    | error e => exact .same
  | addAssociation a =>
    rw [step]
    cases hadd : s.model.addAssociation a with
    | ok m => exact .addAssociation hadd
    | error e => exact .same
  | addAttribute className a => exact s.changed_changeClass className fun _ => rfl
  | addMethod className m => exact s.changed_changeClass className fun _ => rfl
  | setSuperclass className superclass => exact s.changed_changeClass className fun _ => rfl
  | renameClass className newName => exact absurd ht (by simp [Step.keepsNames])
  | clear => exact .cleared
  | askClass className | askSuperclass className | askFields className | askConstructor className =>
    exact hsame (s.about_fst className _)
  | writeSource className =>
    rw [step]
    split
    · exact .same
    · exact .same
  | _ => exact .same

/-! ## Runs -/

theorem steps_cons_fst (s : Session) (t : Step) (ts : List Step) :
    (s.steps (t :: ts)).1 = ((s.step t).1.steps ts).1 := rfl

theorem wellFormed_steps (h : s.model.WellFormed) (hts : ∀ t ∈ ts, t.keepsNames) :
    (s.steps ts).1.model.WellFormed := by
  induction ts generalizing s with
  | nil => exact h
  | cons t ts ih =>
    obtain ⟨ht, hrest⟩ := List.forall_mem_cons.mp hts
    rw [steps_cons_fst]
    exact ih (h.changed (s.changed_step ht)) hrest

/-! ## Steps that fail -/

/-- A class that cannot be added changes nothing: its name is taken. -/
theorem step_addClass_of_failed {c : ClassDecl} (h : (s.step (.addClass c)).2 = .failed f) :
    (s.step (.addClass c)).1 = s ∧ c.name ∈ s.model.names ∧ f = .duplicateClassName c.name := by
  have hstep : s.step (.addClass c) = s.change (s.model.addClass c) := rfl
  rw [hstep] at h ⊢
  cases hadd : s.model.addClass c with
  | ok m =>
    rw [hadd] at h
    exact absurd h (by simp [change])
  | error e =>
    rw [hadd] at h
    obtain rfl : e = f := Reply.failed.inj h
    exact ⟨rfl, Model.addClass_eq_error_iff.mp hadd⟩

/-- An association that cannot be added changes nothing: one of its ends is missing. -/
theorem step_addAssociation_of_failed {a : Association}
    (h : (s.step (.addAssociation a)).2 = .failed f) :
    (s.step (.addAssociation a)).1 = s ∧
      (a.departure ∉ s.model.names ∧ f = .unknownClass a.departure ∨
        a.departure ∈ s.model.names ∧ a.arrival ∉ s.model.names ∧ f = .unknownClass a.arrival) := by
  have hstep : s.step (.addAssociation a) = s.change (s.model.addAssociation a) := rfl
  rw [hstep] at h ⊢
  cases hadd : s.model.addAssociation a with
  | ok m =>
    rw [hadd] at h
    exact absurd h (by simp [change])
  | error e =>
    rw [hadd] at h
    obtain rfl : e = f := Reply.failed.inj h
    exact ⟨rfl, Model.addAssociation_eq_error_iff.mp hadd⟩

/-! ## Whole sessions -/

/-- Wherever a session gets to without giving a class another name, no two classes share a name, and
both ends of every association are classes. The class that is looked up is the only one of its name.
A class or an association that cannot be added leaves everything as it was. -/
theorem integrity_steps (hempty : s.model = {}) (hts : ∀ t ∈ ts, t.keepsNames) :
    let last := (s.steps ts).1
    last.model.names.Nodup ∧
      (∀ a ∈ last.model.associations,
        a.departure ∈ last.model.names ∧ a.arrival ∈ last.model.names) ∧
      (∀ name, last.model.classes.filter (·.name == name) = (last.model.class? name).toList) ∧
      (∀ c f, (last.step (.addClass c)).2 = .failed f → (last.step (.addClass c)).1 = last ∧
        c.name ∈ last.model.names ∧ f = .duplicateClassName c.name) ∧
      ∀ a f, (last.step (.addAssociation a)).2 = .failed f →
        (last.step (.addAssociation a)).1 = last ∧
        (a.departure ∉ last.model.names ∧ f = .unknownClass a.departure ∨
          a.departure ∈ last.model.names ∧ a.arrival ∉ last.model.names ∧
            f = .unknownClass a.arrival) := by
  intro last
  have hlast : last.model.WellFormed :=
    wellFormed_steps (hempty ▸ Model.wellFormed_empty) hts
  refine ⟨hlast.names_nodup, fun a ha => ⟨hlast.departure_mem a ha, hlast.arrival_mem a ha⟩,
    filter_key_eq hlast.names_nodup, ?_, ?_⟩
  · exact fun c f h => step_addClass_of_failed h
  · exact fun a f h => step_addAssociation_of_failed h

/-- A puppy comes before a text of dogs and puppies, which therefore ends at its second node. Then
the puppy extends a class that is missing, and the dog has the puppy. -/
def adoption : List Step :=
  [.addClass { name := "Puppy" }, .readText litterText, .setSuperclass "Puppy" (some "Ghost"),
    .addAttribute "Dog" { name := "name", type := "String" },
    .addAssociation { kind := .aggregation, departure := "Dog", arrival := "Puppy" }]

/-- The session after these steps. -/
def adopted : Session where
  model :=
    { classes := [{ name := "Puppy", superclass := some "Ghost" },
        { name := "Dog", attributes := [{ name := "name", type := "String" }] }]
      associations := [{ kind := .aggregation, departure := "Dog", arrival := "Puppy" }] }

/-- There are one puppy and one dog in the end, and neither another dog nor a ghost gets in. -/
theorem integrity_steps_adoption :
    (({} : Session).steps adoption).1 = adopted ∧ adopted.model.names.Nodup ∧
      (∀ a ∈ adopted.model.associations,
        a.departure ∈ adopted.model.names ∧ a.arrival ∈ adopted.model.names) ∧
      adopted.model.classes.filter (·.name == "Dog") = (adopted.model.class? "Dog").toList ∧
      (adopted.step (.addClass { name := "Dog" })).1 = adopted ∧
      (adopted.step (.addAssociation
        { kind := .other, departure := "Dog", arrival := "Ghost" })).1 = adopted := by
  have hread (m : Model) : m.readText litterText = litter.readInto m := by
    rw [Model.readText, ofText_litterText]
  have hsteps : (({} : Session).steps adoption).1 = adopted := by
    simp only [adoption, steps, step, hread]
    decide +kernel
  have hts : ∀ t ∈ adoption, t.keepsNames := by decide +kernel
  have hlast := integrity_steps (s := {}) rfl hts
  rw [hsteps] at hlast
  obtain ⟨hnames, hends, honly, hclass, hassociation⟩ := hlast
  have hdog : (adopted.step (.addClass { name := "Dog" })).2 =
      .failed (.duplicateClassName "Dog") := rfl
  have hghost : (adopted.step (.addAssociation
      { kind := .other, departure := "Dog", arrival := "Ghost" })).2 =
      .failed (.unknownClass "Ghost") := rfl
  exact ⟨hsteps, hnames, hends, honly "Dog", (hclass _ _ hdog).1, (hassociation _ _ hghost).1⟩

/-- The step that is left out breaks both rules. -/
example :
    let s := (({} : Session).steps [.addClass { name := "Dog" }, .addClass { name := "Cat" },
      .addAssociation { kind := .other, departure := "Dog", arrival := "Cat" },
      .renameClass "Dog" "Cat"]).1
    s.model.names = ["Cat", "Cat"] ∧
      s.model.associations.map Association.departure = ["Dog"] := by
  decide

end Session

end Blueprint

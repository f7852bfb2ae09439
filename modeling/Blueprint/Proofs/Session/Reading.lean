import Blueprint.Proofs.Model.Frame
import Blueprint.Session

/-!
# Reading in a session

A session keeps all that it held when a text is read, in its place: nothing is changed and nothing
taken away, whether the reading comes to its end or not. What comes to it does not depend on what it
held, if the reading comes to its end: it is what a new session gets. Only whether it does so depends
on the names that are taken.
-/

namespace Blueprint

variable {m : Model} {text : String} {f : Failure}

/-! ## Texts -/

/-- A text can be read into a model if it can be read into an empty one, where it makes no class of
a name that is taken. -/
theorem Model.readText_failure_eq_none_iff :
    (m.readText text).failure = none ↔ (readText {} text).failure = none ∧
      ∀ name ∈ (readText {} text).model.names, name ∉ m.names := by
  rw [readText, readText]
  cases Description.ofText text with
  | error f => simp
  | ok d =>
    change (d.readInto m).failure = none ↔ (d.readInto {}).failure = none ∧ _
    rw [Description.readInto_failure_eq_none_iff_disjoint, List.disjoint_comm]
    rfl

/-- A text adds to a model what it makes of an empty one. -/
theorem Model.readText_append (h : (m.readText text).failure = none) :
    (m.readText text).model = m ++ (readText {} text).model ∧
      Journal.diagnostics (m.readText text).journal =
        Journal.diagnostics (readText {} text).journal := by
  rw [readText] at h
  rw [readText, readText]
  cases hd : Description.ofText text with
  | error f =>
    rw [hd] at h
    exact absurd h (by simp)
  | ok d =>
    rw [hd] at h
    exact Description.readInto_append h

/-- A text that is rejected before its nodes are read: it holds no description, or one of another
kind. -/
def RejectedUnread (text : String) (f : Failure) : Prop :=
  Description.ofText text = .error f ∨
    ∃ d, Description.ofText text = .ok d ∧ d.kindFailure? = some f

/-- A text that holds a description in which the reading ends at a node. -/
def EndsAtNode (m : Model) (text : String) (f : Failure) (m' : Model) : Prop :=
  ∃ d before n after, Description.ofText text = .ok d ∧ d.kindFailure? = none ∧
    d.nodes = before ++ n :: after ∧ EndedAt m before n f m'

/-- A text that cannot be read into a model leaves it as it is, or ends at a node. -/
theorem Model.readText_of_failure (h : (m.readText text).failure = some f) :
    RejectedUnread text f ∧ (m.readText text).model = m ∨
      EndsAtNode m text f (m.readText text).model := by
  rw [readText] at h ⊢
  cases hd : Description.ofText text with
  | error g =>
    rw [hd] at h
    exact Or.inl ⟨Or.inl (hd.trans (congrArg _ (Option.some.inj h))), rfl⟩
  | ok d =>
    rw [hd] at h
    rcases Description.readInto_of_failure h with ⟨hkind, hmodel⟩ | ⟨hkind, hended⟩
    · exact Or.inl ⟨Or.inr ⟨d, hd, hkind⟩, hmodel⟩
    · obtain ⟨before, n, after, hsplit, hended⟩ := hended
      exact Or.inr ⟨d, before, n, after, hd, hkind, hsplit, hended⟩

theorem EndsAtNode.associations_eq {m' : Model} (h : EndsAtNode m text f m') :
    m'.associations = m.associations := by
  obtain ⟨d, before, n, after, -, -, -, hended⟩ := h
  exact hended.associations_eq

/-- Whatever a model holds, it holds after a reading too, in its place. -/
theorem Model.prefix_readText (m : Model) (text : String) :
    m.classes <+: (m.readText text).model.classes ∧
      m.associations <+: (m.readText text).model.associations := by
  cases hfailure : (m.readText text).failure with
  | none =>
    obtain ⟨hmodel, -⟩ := readText_append hfailure
    rw [hmodel, classes_append, associations_append]
    exact ⟨List.prefix_append _ _, List.prefix_append _ _⟩
  | some f =>
    rcases readText_of_failure hfailure with ⟨-, hmodel⟩ | hended
    · rw [hmodel]
      exact ⟨List.prefix_refl _, List.prefix_refl _⟩
    · rw [hended.associations_eq]
      obtain ⟨d, before, n, after, -, -, -, hended⟩ := hended
      obtain ⟨added, hclasses, -⟩ := hended.classes_eq
      rw [hclasses]
      exact ⟨List.prefix_append _ _, List.prefix_refl _⟩

/-! ## Sessions -/

namespace Session

variable {s : Session}

theorem model_step_readText (s : Session) (text : String) :
    (s.step (.readText text)).1.model = (s.model.readText text).model := rfl

theorem reply_readText_eq_done_iff :
    (s.step (.readText text)).2 = .done ↔ (s.model.readText text).failure = none := by
  change ((s.model.readText text).failure.map Reply.failed).getD .done = .done ↔ _
  cases (s.model.readText text).failure <;> simp

theorem reply_readText_eq_failed_iff :
    (s.step (.readText text)).2 = .failed f ↔ (s.model.readText text).failure = some f := by
  change ((s.model.readText text).failure.map Reply.failed).getD .done = .failed f ↔ _
  cases (s.model.readText text).failure <;> simp

/-- Reading only adds, whether it comes to its end or not. If it does, the session gets what a new
session gets; and it does if a new session can read the text and makes no class of a name that is
taken. If it does not, no association comes, and no class but those of the nodes before the one
that the reading ends at. -/
theorem step_readText (s : Session) (text : String) :
    let s' := (s.step (.readText text)).1
    let reply := (s.step (.readText text)).2
    let alone := (({} : Session).step (.readText text)).1
    s.model.classes <+: s'.model.classes ∧ s.model.associations <+: s'.model.associations ∧
      s.diagnostics <+: s'.diagnostics ∧
      (reply = .done ↔ (({} : Session).step (.readText text)).2 = .done ∧
        ∀ name ∈ alone.model.names, name ∉ s.model.names) ∧
      (reply = .done → s'.model.classes = s.model.classes ++ alone.model.classes ∧
        s'.model.associations = s.model.associations ++ alone.model.associations ∧
        s'.diagnostics = s.diagnostics ++ alone.diagnostics) ∧
      ∀ f, reply = .failed f → s'.model.associations = s.model.associations ∧
        (RejectedUnread text f ∧ s'.model.classes = s.model.classes ∨
          EndsAtNode s.model text f s'.model) := by
  intro s' reply alone
  obtain ⟨hclasses, hassociations⟩ := s.model.prefix_readText text
  refine ⟨hclasses, hassociations, List.prefix_append _ _, ?_, ?_, ?_⟩
  · rw [reply_readText_eq_done_iff, reply_readText_eq_done_iff]
    exact Model.readText_failure_eq_none_iff
  · intro h
    obtain ⟨hmodel, hnotes⟩ := Model.readText_append (reply_readText_eq_done_iff.mp h)
    rw [model_step_readText, model_step_readText, hmodel]
    exact ⟨Model.classes_append _ _, Model.associations_append _ _,
      congrArg (s.diagnostics ++ ·) hnotes⟩
  · intro f h
    rcases Model.readText_of_failure (reply_readText_eq_failed_iff.mp h) with
      ⟨hrejected, hmodel⟩ | hended
    · rw [model_step_readText, hmodel]
      exact ⟨rfl, Or.inl ⟨hrejected, rfl⟩⟩
    · exact ⟨hended.associations_eq, Or.inr hended⟩

/-- A diagram of dogs and puppies, which are dogs. -/
def litter : Description where
  nodes := [{ id := 1, name := "Dog" }, { id := 2, name := "Puppy" }]
  edges := [{ start := some 2, stop := some 1, type := some "GeneralizationEdge" }]

/-- The text of the diagram. -/
def litterText : String :=
  "\x7b\"nodes\": [\x7b\"id\": 1, \"name\": \"Dog\"\x7d, \x7b\"id\": 2, \"name\": \"Puppy\"\x7d], " ++
    "\"edges\": [\x7b\"start\": 2, \"end\": 1, \"type\": \"GeneralizationEdge\"\x7d]\x7d"

theorem ofText_litterText : Description.ofText litterText = .ok litter := by decide +kernel

/-- A session with classes and an association that leads nowhere. -/
def strays (names : List String) : Session where
  model :=
    { classes := names.map fun name => { name, superclass := some "Ghost" }
      associations := [{ kind := .other, departure := "Cat", arrival := "Ghost" }] }
  diagnostics := [.info "open" none]

/-- Where there are two cats, dogs and puppies come to them. Where there is a puppy, only a dog
does. -/
theorem step_readText_strays :
    ((strays ["Cat", "Cat"]).step (.readText litterText)).2 = .done ∧
      ((strays ["Cat", "Cat"]).step (.readText litterText)).1.model.classes =
        (strays ["Cat", "Cat"]).model.classes ++
          [{ name := "Dog" }, { name := "Puppy", superclass := some "Dog" }] ∧
      ((strays ["Puppy"]).step (.readText litterText)).2 = .failed (.duplicateClassName "Puppy") ∧
      EndsAtNode (strays ["Puppy"]).model litterText (.duplicateClassName "Puppy")
        ((strays ["Puppy"]).step (.readText litterText)).1.model := by
  have hread (m : Model) : m.readText litterText = litter.readInto m := by
    rw [Model.readText, ofText_litterText]
  have hdone : ((strays ["Cat", "Cat"]).step (.readText litterText)).2 = .done := by
    rw [reply_readText_eq_done_iff, hread]
    decide +kernel
  have hfailed :
      ((strays ["Puppy"]).step (.readText litterText)).2 = .failed (.duplicateClassName "Puppy") := by
    rw [reply_readText_eq_failed_iff, hread]
    decide +kernel
  have halone : (({} : Session).step (.readText litterText)).1.model.classes =
      [{ name := "Dog" }, { name := "Puppy", superclass := some "Dog" }] := by
    rw [model_step_readText, hread]
    decide +kernel
  obtain ⟨-, -, -, -, hadded, -⟩ := step_readText (strays ["Cat", "Cat"]) litterText
  obtain ⟨-, -, -, -, -, hleft⟩ := step_readText (strays ["Puppy"]) litterText
  obtain ⟨-, ⟨hrejected, -⟩ | hended⟩ := hleft _ hfailed
  · -- the text is a description, and of the right kind
    rcases hrejected with herror | ⟨d, hd, hkind⟩
    · exact absurd (ofText_litterText.symm.trans herror) (by simp)
    · obtain rfl := Except.ok.inj (ofText_litterText.symm.trans hd)
      exact absurd hkind (by simp [Description.kindFailure?, litter])
  · refine ⟨hdone, ?_, hfailed, hended⟩
    rw [(hadded hdone).1, halone]

end Session

end Blueprint

import Blueprint.Model.Reading
import Mathlib.Data.List.Nodup

/-!
# What the operations of a model do

A class is added where its name is new, and an association where both of its ends are there.
Relating two classes adds an association between them, and a generalization also tells its departure
which class it extends. No operation takes a name away.
-/

namespace Blueprint

/-- Changing the first class that a test picks keeps whatever the change does not touch, of all
classes. -/
theorem map_modifyFirst {β : Type} {g : ClassDecl → β} {p : ClassDecl → Bool}
    {f : ClassDecl → ClassDecl} (hf : ∀ c, g (f c) = g c) (cs : List ClassDecl) :
    (modifyFirst p f cs).map g = cs.map g := by
  induction cs with
  | nil => rfl
  | cons c cs ih =>
    rw [modifyFirst]
    by_cases hc : p c
    · rw [if_pos hc, List.map_cons, hf, List.map_cons]
    · rw [if_neg hc, List.map_cons, ih, List.map_cons]

theorem mem_modifyFirst {p : ClassDecl → Bool} {f : ClassDecl → ClassDecl} {cs : List ClassDecl}
    {c : ClassDecl} (h : c ∈ modifyFirst p f cs) : c ∈ cs ∨ ∃ d ∈ cs, f d = c := by
  induction cs with
  | nil => exact absurd h List.not_mem_nil
  | cons d ds ih =>
    rw [modifyFirst] at h
    split at h
    · rcases List.mem_cons.mp h with rfl | h
      · exact Or.inr ⟨d, List.mem_cons_self, rfl⟩
      · exact Or.inl (List.mem_cons_of_mem _ h)
    · rcases List.mem_cons.mp h with rfl | h
      · exact Or.inl List.mem_cons_self
      · rcases ih h with h | ⟨e, he, rfl⟩
        · exact Or.inl (List.mem_cons_of_mem _ h)
        · exact Or.inr ⟨e, List.mem_cons_of_mem _ he, rfl⟩

/-- Where no two classes share a name, changing the first one of a name changes every one. -/
theorem modifyFirst_eq_map {name : String} {f : ClassDecl → ClassDecl} {cs : List ClassDecl}
    (hnd : (cs.map ClassDecl.name).Nodup) :
    modifyFirst (·.name == name) f cs = cs.map fun c => if c.name = name then f c else c := by
  induction cs with
  | nil => rfl
  | cons c cs ih =>
    obtain ⟨hnew, hrest⟩ := List.nodup_cons.mp hnd
    rw [modifyFirst, List.map_cons]
    by_cases hc : c.name = name
    · have hkept : (cs.map fun d => if d.name = name then f d else d) = cs := by
        conv_rhs => rw [← List.map_id cs]
        refine List.map_congr_left fun d hd => ?_
        have hne : d.name ≠ name := fun e => hnew (List.mem_map.mpr ⟨d, hd, e.trans hc.symm⟩)
        rw [if_neg hne, id]
      rw [if_pos (beq_iff_eq.mpr hc), if_pos hc, hkept]
    · rw [if_neg fun e => hc (beq_iff_eq.mp e), if_neg hc, ih hrest]

namespace Model

/-- The names of the classes. -/
def names (m : Model) : List String := m.classes.map ClassDecl.name

/-- The classes after two of them were related. -/
def classesAfter (m : Model) (a : Association) : List ClassDecl :=
  if a.kind = .generalization then
    modifyFirst (·.name == a.departure) (fun c => { c with superclass := some a.arrival }) m.classes
  else m.classes

/-- A model with one more association between two of its classes. -/
def related (m : Model) (a : Association) : Model :=
  { classes := m.classesAfter a, associations := m.associations ++ [a] }

variable {m m' : Model} {c : ClassDecl} {a : Association} {name : String}

theorem class?_isSome_iff : (m.class? name).isSome ↔ name ∈ m.names := by
  simp [class?, names, List.find?_isSome]

theorem class?_isNone_iff : (m.class? name).isNone ↔ name ∉ m.names := by
  rw [← class?_isSome_iff, Option.isNone_iff_eq_none, Option.isSome_iff_ne_none, not_not]

/-! ## Adding -/

/-- All that adding a class can do. -/
theorem addClass_eq_ok_iff :
    m.addClass c = .ok m' ↔ c.name ∉ m.names ∧ { m with classes := m.classes ++ [c] } = m' := by
  rw [addClass]
  by_cases h : c.name ∈ m.names
  · rw [if_pos (class?_isSome_iff.mpr h)]
    simp [h]
  · rw [if_neg fun e => h (class?_isSome_iff.mp e)]
    simp [h]

/-- All that can keep a class from being added. -/
theorem addClass_eq_error_iff {e : Failure} :
    m.addClass c = .error e ↔ c.name ∈ m.names ∧ e = .duplicateClassName c.name := by
  rw [addClass]
  by_cases h : c.name ∈ m.names
  · rw [if_pos (class?_isSome_iff.mpr h)]
    simp [h, eq_comm]
  · rw [if_neg fun e => h (class?_isSome_iff.mp e)]
    simp [h]

theorem names_append_singleton (m : Model) (c : ClassDecl) :
    names { m with classes := m.classes ++ [c] } = m.names ++ [c.name] := by
  rw [names, List.map_append]
  rfl

/-- All that adding an association can do. -/
theorem addAssociation_eq_ok_iff :
    m.addAssociation a = .ok m' ↔ a.departure ∈ m.names ∧ a.arrival ∈ m.names ∧
      { m with associations := m.associations ++ [a] } = m' := by
  rw [addAssociation]
  by_cases hd : a.departure ∈ m.names
  · rw [if_neg fun e => class?_isNone_iff.mp e hd]
    by_cases ha : a.arrival ∈ m.names
    · rw [if_neg fun e => class?_isNone_iff.mp e ha]
      simp [hd, ha]
    · rw [if_pos (class?_isNone_iff.mpr ha)]
      simp [ha]
  · rw [if_pos (class?_isNone_iff.mpr hd)]
    simp [hd]

/-- All that can keep an association from being added: its departure is missing, or its arrival. -/
theorem addAssociation_eq_error_iff {e : Failure} :
    m.addAssociation a = .error e ↔
      a.departure ∉ m.names ∧ e = .unknownClass a.departure ∨
      a.departure ∈ m.names ∧ a.arrival ∉ m.names ∧ e = .unknownClass a.arrival := by
  rw [addAssociation]
  by_cases hd : a.departure ∈ m.names
  · rw [if_neg fun e => class?_isNone_iff.mp e hd]
    by_cases ha : a.arrival ∈ m.names
    · rw [if_neg fun e => class?_isNone_iff.mp e ha]
      simp [hd, ha]
    · rw [if_pos (class?_isNone_iff.mpr ha)]
      simp [hd, ha, eq_comm]
  · rw [if_pos (class?_isNone_iff.mpr hd)]
    simp [hd, eq_comm]

/-! ## Relating -/

/-- Relating two classes changes nothing but what one of them extends. -/
theorem map_classesAfter {β : Type} {g : ClassDecl → β}
    (hg : ∀ (c : ClassDecl) (s : Option String), g { c with superclass := s } = g c) :
    (m.classesAfter a).map g = m.classes.map g := by
  rw [classesAfter]
  split
  · exact map_modifyFirst (fun c => hg c _) m.classes
  · rfl

theorem map_name_classesAfter : (m.classesAfter a).map ClassDecl.name = m.names :=
  map_classesAfter fun _ _ => rfl

/-- Relating two classes changes at most what one class extends. -/
theorem mem_classesAfter (h : c ∈ m.classesAfter a) :
    c ∈ m.classes ∨ ∃ d ∈ m.classes, { d with superclass := some a.arrival } = c := by
  rw [classesAfter] at h
  split at h
  · exact mem_modifyFirst h
  · exact Or.inl h

/-- Where no two classes share a name, the class that a generalization leaves extends its arrival,
and all others extend what they did. -/
theorem superclass_of_mem_classesAfter (hnd : m.names.Nodup) (h : c ∈ m.classesAfter a) :
    ∃ d ∈ m.classes, d.name = c.name ∧ c.superclass =
      if a.kind = .generalization ∧ a.departure = c.name then some a.arrival else d.superclass := by
  rw [classesAfter] at h
  by_cases hkind : a.kind = .generalization
  · rw [if_pos hkind, modifyFirst_eq_map hnd] at h
    obtain ⟨d, hd, rfl⟩ := List.mem_map.mp h
    by_cases hname : d.name = a.departure
    · rw [if_pos hname]
      exact ⟨d, hd, rfl, by rw [if_pos ⟨hkind, hname.symm⟩]⟩
    · rw [if_neg hname]
      exact ⟨d, hd, rfl, by rw [if_neg fun e => hname e.2.symm]⟩
  · rw [if_neg hkind] at h
    exact ⟨c, h, rfl, by rw [if_neg fun e => hkind e.1]⟩

theorem names_related : (m.related a).names = m.names := map_name_classesAfter

/-- Two classes of a model can always be related. -/
theorem relate_of_mem (hd : a.departure ∈ m.names) (ha : a.arrival ∈ m.names) :
    m.relate a = (m.related a, none) := by
  -- the model before the association is added has the same names
  set changed : Model := { m with classes := m.classesAfter a } with hchanged
  have hnames : changed.names = m.names := map_name_classesAfter
  have hadd : changed.addAssociation a = .ok (m.related a) :=
    addAssociation_eq_ok_iff.mpr ⟨hnames ▸ hd, hnames ▸ ha, rfl⟩
  have hfirst : (if a.kind = .generalization then
      m.modifyClass a.departure fun c => { c with superclass := some a.arrival }
    else m) = changed := by
    rw [hchanged, classesAfter]
    split <;> rfl
  rw [relate, hfirst, hadd]

end Model

end Blueprint

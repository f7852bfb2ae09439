import Blueprint.Proofs.Model.Reading
import Mathlib.Data.List.Induction

/-!
# The integrity of models

In a well-formed model no two classes share a name, and both ends of every association name a class.
The operations that build models keep this, whatever they are given and in whatever order they come,
and there is no other well-formed model than those that they build.

A reading keeps one more thing: a class extends nothing but classes of the model. Classes that are
added on their own need not.
-/

namespace Blueprint.Model

/-- A model whose names mean one class each and whose associations lead from class to class. -/
structure WellFormed (m : Model) : Prop where
  /-- No two classes share a name. -/
  names_nodup : m.names.Nodup
  /-- Every association leaves a class. -/
  departure_mem : ∀ a ∈ m.associations, a.departure ∈ m.names
  /-- Every association leads to a class. -/
  arrival_mem : ∀ a ∈ m.associations, a.arrival ∈ m.names

/-- The models that are built by adding classes and associations and by reading texts. What a
reading leaves behind counts whether or not the reading ended early. -/
inductive Built : Model → Prop
  | empty : Built {}
  | addClass {m m' : Model} {c : ClassDecl} : Built m → m.addClass c = .ok m' → Built m'
  | addAssociation {m m' : Model} {a : Association} :
      Built m → m.addAssociation a = .ok m' → Built m'
  | readText {m : Model} (text : String) : Built m → Built (m.readText text).model

variable {m m' : Model} {c : ClassDecl} {a : Association}

/-! ## What building keeps -/

theorem wellFormed_empty : WellFormed {} :=
  ⟨List.nodup_nil, fun _ ha => absurd ha List.not_mem_nil, fun _ ha => absurd ha List.not_mem_nil⟩

namespace WellFormed

theorem addClass (h : m.WellFormed) (hadd : m.addClass c = .ok m') : m'.WellFormed := by
  obtain ⟨hnew, rfl⟩ := addClass_eq_ok_iff.mp hadd
  have hnames := names_append_singleton m c
  refine ⟨?_, ?_, ?_⟩
  · rw [hnames, ← List.concat_eq_append]
    exact h.names_nodup.concat hnew
  · intro a ha
    rw [hnames]
    exact List.mem_append_left _ (h.departure_mem a ha)
  · intro a ha
    rw [hnames]
    exact List.mem_append_left _ (h.arrival_mem a ha)

/-- More classes under the same names do no harm, nor does an association between two of them. -/
theorem append (h : m.WellFormed) {classes : List ClassDecl}
    (hnames : classes.map ClassDecl.name = m.names) (hd : a.departure ∈ m.names)
    (ha : a.arrival ∈ m.names) :
    WellFormed { classes, associations := m.associations ++ [a] } := by
  have hsame : names { classes, associations := m.associations ++ [a] } = m.names := hnames
  refine ⟨?_, ?_, ?_⟩
  · rw [hsame]
    exact h.names_nodup
  · intro b hb
    rw [hsame]
    rcases List.mem_append.mp hb with hb | hb
    · exact h.departure_mem b hb
    · exact List.mem_singleton.mp hb ▸ hd
  · intro b hb
    rw [hsame]
    rcases List.mem_append.mp hb with hb | hb
    · exact h.arrival_mem b hb
    · exact List.mem_singleton.mp hb ▸ ha

theorem addAssociation (h : m.WellFormed) (hadd : m.addAssociation a = .ok m') :
    m'.WellFormed := by
  obtain ⟨hd, ha, rfl⟩ := addAssociation_eq_ok_iff.mp hadd
  exact h.append rfl hd ha

/-- Classes may change as long as they keep their names. -/
theorem modifyClass (h : m.WellFormed) {name : String} {f : ClassDecl → ClassDecl}
    (hf : ∀ c, (f c).name = c.name) : (m.modifyClass name f).WellFormed := by
  have hnames : (m.modifyClass name f).names = m.names := map_modifyFirst hf m.classes
  refine ⟨?_, ?_, ?_⟩
  · rw [hnames]
    exact h.names_nodup
  · rw [hnames]
    exact h.departure_mem
  · rw [hnames]
    exact h.arrival_mem

theorem readInto (h : m.WellFormed) (d : Description) : (d.readInto m).model.WellFormed := by
  refine Description.readInto_induction d h ?_ ?_
  · intro m c m' hm _ hadd
    exact hm.addClass hadd
  · intro m a hm hd ha
    exact hm.append map_name_classesAfter hd ha

theorem readText (h : m.WellFormed) (text : String) : (m.readText text).model.WellFormed := by
  rw [Model.readText]
  split
  · exact h
  · exact h.readInto _

end WellFormed

theorem Built.wellFormed (h : m.Built) : m.WellFormed := by
  induction h with
  | empty => exact wellFormed_empty
  | addClass _ hadd ih => exact ih.addClass hadd
  | addAssociation _ hadd ih => exact ih.addAssociation hadd
  | readText text _ ih => exact ih.readText text

/-! ## Building what is well-formed -/

/-- Classes with different names can be added one after another. -/
theorem built_classes (cs : List ClassDecl) (hnd : (cs.map ClassDecl.name).Nodup) :
    Built { classes := cs } := by
  induction cs using List.reverseRecOn with
  | nil => exact .empty
  | append_singleton cs c ih =>
    rw [List.map_append, List.nodup_append] at hnd
    obtain ⟨hfirst, -, hdisjoint⟩ := hnd
    refine (ih hfirst).addClass (addClass_eq_ok_iff.mpr ⟨?_, rfl⟩)
    intro hmem
    exact hdisjoint c.name hmem c.name (by simp) rfl

/-- The well-formed models are those that can be built. -/
theorem built_iff_wellFormed : m.Built ↔ m.WellFormed := by
  refine ⟨Built.wellFormed, ?_⟩
  rintro ⟨hnd, hdepartures, harrivals⟩
  -- all classes first, then the associations one after another
  obtain ⟨classes, associations⟩ := m
  induction associations using List.reverseRecOn with
  | nil => exact built_classes classes hnd
  | append_singleton as a ih =>
    have hfirst := ih hnd (fun b hb => hdepartures b (List.mem_append_left _ hb))
      fun b hb => harrivals b (List.mem_append_left _ hb)
    have hlast : a ∈ as ++ [a] := List.mem_append_right _ (List.mem_singleton_self a)
    exact hfirst.addAssociation
      (addAssociation_eq_ok_iff.mpr ⟨hdepartures a hlast, harrivals a hlast, rfl⟩)

/-! ## What a class extends -/

/-- The classes of a model that was read extend nothing but classes of the model. -/
theorem superclass_mem_names_readInto (d : Description) :
    ∀ c ∈ (d.readInto {}).model.classes, ∀ name, c.superclass = some name →
      name ∈ (d.readInto {}).model.names := by
  refine Description.readInto_induction
    (P := fun m => ∀ c ∈ m.classes, ∀ name, c.superclass = some name → name ∈ m.names) d
    (fun c hc => absurd hc List.not_mem_nil) ?_ ?_
  · intro m c m' hm hnone hadd d hd name hname
    obtain ⟨-, rfl⟩ := addClass_eq_ok_iff.mp hadd
    rw [names, List.map_append]
    rcases List.mem_append.mp hd with hd | hd
    · exact List.mem_append_left _ (hm d hd name hname)
    · rw [List.mem_singleton.mp hd, hnone] at hname
      exact absurd hname (by simp)
  · intro m a hm _ ha d hd name hname
    rw [names_related]
    rcases mem_classesAfter hd with hd | ⟨c, -, rfl⟩
    · exact hm d hd name hname
    · exact Option.some.inj hname ▸ ha

theorem superclass_mem_names_readText (text : String) :
    ∀ c ∈ (Model.readText {} text).model.classes, ∀ name, c.superclass = some name →
      name ∈ (Model.readText {} text).model.names := by
  rw [readText]
  split
  · exact fun c hc => absurd hc List.not_mem_nil
  · next d _ => exact superclass_mem_names_readInto d

end Blueprint.Model

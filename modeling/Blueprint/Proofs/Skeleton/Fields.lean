import Blueprint.Proofs.Diagnostic
import Blueprint.Proofs.Naming
import Blueprint.Skeleton.Field
import Mathlib.Data.List.Forall2

/-!
# The fields of a class

Every association that leaves a class has a field, generalizations apart. The names of the fields
are fresh: no two of them are equal, and none of them is the name of an attribute.
-/

namespace Blueprint.Skeleton

variable {taken : List String}

/-- The associations that become fields. -/
def fieldAssociations (as : List Association) : List Association :=
  as.filter (·.kind != .generalization)

/-- The names that fields want. -/
def wantedNames (as : List Association) : List String :=
  (fieldAssociations as).map fun a => Text.lower a.arrival

/-- What a field says of its association. -/
def Field.relation (f : Field) : RelationKind × String × Bool := (f.kind, f.elementType, f.isMany)

theorem wantedNames_cons_of_eq {a : Association} (h : a.kind = .generalization)
    (as : List Association) : wantedNames (a :: as) = wantedNames as := by
  simp [wantedNames, fieldAssociations, h]

theorem wantedNames_cons_of_ne {a : Association} (h : a.kind ≠ .generalization)
    (as : List Association) : wantedNames (a :: as) = Text.lower a.arrival :: wantedNames as := by
  simp [wantedNames, fieldAssociations, h]

theorem map_name_fieldsFrom (as : List Association) :
    (fieldsFrom taken as).map Field.name = freshNames "" taken (wantedNames as) := by
  induction as generalizing taken with
  | nil => rfl
  | cons a as ih =>
    by_cases hkind : a.kind = .generalization
    · rw [fieldsFrom, if_pos hkind, ih, wantedNames_cons_of_eq hkind]
    · rw [fieldsFrom, if_neg hkind, List.map_cons, ih, wantedNames_cons_of_ne hkind, freshNames]

theorem map_relation_fieldsFrom (as : List Association) :
    (fieldsFrom taken as).map Field.relation =
      (fieldAssociations as).map fun a => (a.kind, a.arrival, a.isMany) := by
  induction as generalizing taken with
  | nil => rfl
  | cons a as ih =>
    by_cases hkind : a.kind = .generalization
    · have hskipped : fieldAssociations (a :: as) = fieldAssociations as := by
        simp [fieldAssociations, hkind]
      rw [fieldsFrom, if_pos hkind, ih, hskipped]
    · have hkept : fieldAssociations (a :: as) = a :: fieldAssociations as := by
        simp [fieldAssociations, hkind]
      rw [fieldsFrom, if_neg hkind, List.map_cons, ih, hkept, List.map_cons]
      rfl

/-- Whether a field has another name than the wanted one. -/
def Field.isRenamed (f : Field) : Bool := f.name != Text.lower f.elementType

theorem isSome_renamedFrom_of_mem {as : List Association} {f : Field}
    (h : f ∈ fieldsFrom taken as) : f.renamedFrom.isSome = f.isRenamed := by
  induction as generalizing taken with
  | nil => exact absurd h List.not_mem_nil
  | cons a as ih =>
    by_cases hkind : a.kind = .generalization
    · rw [fieldsFrom, if_pos hkind] at h
      exact ih h
    · rw [fieldsFrom, if_neg hkind] at h
      rcases List.mem_cons.mp h with rfl | h
      · by_cases hname : freshName (Text.lower a.arrival) "" taken = Text.lower a.arrival
        · simp [Field.isRenamed, hname]
        · simp [Field.isRenamed, hname]
      · exact ih h

/-- A field gets a name that is fresh after those that are taken and those of the fields before it,
and tells the wanted one if it is another. -/
theorem name_of_fieldsFrom {as : List Association} {before after : List Field} {f : Field}
    (h : fieldsFrom taken as = before ++ f :: after) :
    f.name = freshName (Text.lower f.elementType) "" (taken ++ before.map Field.name) ∧
      f.renamedFrom =
        if f.name = Text.lower f.elementType then none else some (Text.lower f.elementType) := by
  induction as generalizing taken before with
  | nil => exact absurd h (by simp [fieldsFrom])
  | cons a as ih =>
    by_cases hkind : a.kind = .generalization
    · rw [fieldsFrom, if_pos hkind] at h
      exact ih h
    · rw [fieldsFrom, if_neg hkind] at h
      cases before with
      | nil =>
        obtain ⟨rfl, -⟩ := List.cons.inj h
        exact ⟨by rw [List.map_nil, List.append_nil], rfl⟩
      | cons g before =>
        obtain ⟨rfl, hrest⟩ := List.cons.inj h
        obtain ⟨hname, hrenamed⟩ := ih hrest
        refine ⟨?_, hrenamed⟩
        rw [hname, List.map_cons, List.append_assoc, List.singleton_append]

/-- Fields with another name than the wanted one leave an info each. -/
theorem tally_fieldsRenamed (className : String) (as : List Association) :
    Tally (fieldsRenamed className (fieldsFrom taken as)) 0
      ((fieldsFrom taken as).countP Field.isRenamed) := by
  have hlength : (fieldsRenamed className (fieldsFrom taken as)).length =
      (fieldsFrom taken as).countP Field.isRenamed := by
    rw [fieldsRenamed, List.length_filterMap_eq_countP]
    refine List.countP_congr fun f hf => ?_
    rw [Option.isSome_map, isSome_renamedFrom_of_mem hf]
  rw [← hlength]
  refine Tally.of_infos fun d hd => ?_
  obtain ⟨f, -, hf⟩ := List.mem_filterMap.mp hd
  obtain ⟨base, -, rfl⟩ := Option.map_eq_some_iff.mp hf
  rfl

variable (m : Model) (c : ClassDecl)

theorem map_name_fields :
    (fields m c).map Field.name =
      freshNames "" (c.attributes.map Attribute.name) (wantedNames (m.departing c.name)) :=
  map_name_fieldsFrom _

/-- The fields stand for the associations that leave the class, in their order. -/
theorem map_relation_fields :
    (fields m c).map Field.relation =
      (fieldAssociations (m.departing c.name)).map fun a => (a.kind, a.arrival, a.isMany) :=
  map_relation_fieldsFrom _

theorem fieldAssociations_departing : fieldAssociations (m.departing c.name) =
    m.associations.filter fun a => a.departure = c.name ∧ a.kind ≠ .generalization := by
  rw [fieldAssociations, Model.departing, List.filter_filter]
  refine List.filter_congr fun a _ => ?_
  rw [Bool.eq_iff_iff]
  simp [and_comm]

theorem forall₂_fields :
    List.Forall₂ (fun a f => f.elementType = a.arrival ∧ f.kind = a.kind ∧ f.isMany = a.isMany)
      (m.associations.filter fun a => a.departure = c.name ∧ a.kind ≠ .generalization)
      (fields m c) := by
  have hsame : List.Forall₂ Eq
      ((fieldAssociations (m.departing c.name)).map fun a => (a.kind, a.arrival, a.isMany))
      ((fields m c).map Field.relation) := by
    rw [List.forall₂_eq_eq_eq, map_relation_fields]
  rw [← fieldAssociations_departing]
  refine (List.forall₂_map_right_iff.mp (List.forall₂_map_left_iff.mp hsame)).imp fun a f h => ?_
  obtain ⟨hkind, hrest⟩ := Prod.mk.inj h
  obtain ⟨harrival, hmany⟩ := Prod.mk.inj hrest
  exact ⟨harrival.symm, hkind.symm, hmany.symm⟩

/-- Where two lists are mapped to the same list, their members go together place by place. -/
theorem exists_getElem?_of_map_eq {α β γ : Type} {xs : List α} {ys : List β} {g : α → γ}
    {h : β → γ} (heq : xs.map g = ys.map h) {n : Nat} {y : β} (hy : ys[n]? = some y) :
    ∃ x, xs[n]? = some x ∧ g x = h y := by
  have hn : (xs.map g)[n]? = some (h y) := by rw [heq, List.getElem?_map, hy, Option.map_some]
  rw [List.getElem?_map] at hn
  exact Option.map_eq_some_iff.mp hn

/-- The field for an association stands behind those for the associations before it. -/
theorem exists_field_of_association {before after : List Association} {a : Association}
    (h : m.associations = before ++ a :: after) (hdeparture : a.departure = c.name)
    (hkind : a.kind ≠ .generalization) :
    ∃ f, (fields m c)[before.countP fun b => b.departure = c.name ∧ b.kind ≠ .generalization]? =
        some f ∧ f.relation = (a.kind, a.arrival, a.isMany) := by
  have hleft : decide (a.departure = c.name ∧ a.kind ≠ .generalization) :=
    decide_eq_true ⟨hdeparture, hkind⟩
  have hplace : (fieldAssociations (m.departing c.name))[before.countP fun b =>
      b.departure = c.name ∧ b.kind ≠ .generalization]? = some a := by
    rw [fieldAssociations_departing, h, List.filter_append, List.countP_eq_length_filter,
      List.getElem?_append_right (Nat.le_refl _), Nat.sub_self, List.filter_cons, if_pos hleft]
    rfl
  exact exists_getElem?_of_map_eq (map_relation_fields m c) hplace

theorem nodup_name_fields : ((fields m c).map Field.name).Nodup := by
  rw [map_name_fields]
  exact nodup_freshNames _

variable {m c}

theorem kind_ne_generalization {f : Field} (hf : f ∈ fields m c) : f.kind ≠ .generalization := by
  intro hkind
  have hmem : f.relation ∈ (fields m c).map Field.relation := List.mem_map_of_mem hf
  rw [map_relation_fields] at hmem
  obtain ⟨a, ha, hrelation⟩ := List.mem_map.mp hmem
  have hleft : a.kind ≠ .generalization := by simpa using (List.mem_filter.mp ha).2
  exact hleft ((congrArg Prod.fst hrelation).trans hkind)

theorem name_ne_attribute {f : Field} (hf : f ∈ fields m c) :
    f.name ∉ c.attributes.map Attribute.name := by
  have hmem : f.name ∈ (fields m c).map Field.name := List.mem_map_of_mem hf
  rw [map_name_fields] at hmem
  exact not_mem_of_mem_freshNames hmem

/-! ## The names of fields -/

/-- A class has one field for each association that leaves it and is no generalization, in their
order. The names of the fields are different, and none is that of an attribute. A field is named
after the class that it leads to, in lower case, if no attribute and no field before it has the
name, and only then. Otherwise the name is followed by the least number from two on that makes it
free, and the field tells that it was renamed. -/
theorem fields_named (m : Model) (c : ClassDecl) :
    let attributeNames := c.attributes.map Attribute.name
    List.Forall₂ (fun a f => f.elementType = a.arrival ∧ f.kind = a.kind ∧ f.isMany = a.isMany)
        (m.associations.filter fun a => a.departure = c.name ∧ a.kind ≠ .generalization)
        (fields m c) ∧
      ((fields m c).map Field.name).Nodup ∧
      (∀ f ∈ fields m c, f.name ∉ attributeNames) ∧
      ∀ before f after, fields m c = before ++ f :: after →
        let base := Text.lower f.elementType
        let taken := attributeNames ++ before.map Field.name
        (f.name = base ↔ base ∉ taken) ∧ (f.renamedFrom = none ↔ base ∉ taken) ∧
        (base ∈ taken → f.renamedFrom = some base ∧ ∃ n, 2 ≤ n ∧ f.name = base ++ toString n ∧
          base ++ toString n ∉ taken ∧ ∀ k, 2 ≤ k → k < n → base ++ toString k ∈ taken) := by
  intro attributeNames
  refine ⟨forall₂_fields m c, nodup_name_fields m c, fun f hf => name_ne_attribute hf, ?_⟩
  intro before f after hsplit base taken
  obtain ⟨hname, hrenamed⟩ := name_of_fieldsFrom hsplit
  have hiff : f.name = base ↔ base ∉ taken := by
    rw [hname]
    exact freshName_eq_base_iff
  refine ⟨hiff, ?_, fun hmem => ⟨?_, ?_⟩⟩
  · rw [← hiff, hrenamed]
    simp [base]
  · rw [hrenamed, if_neg fun e => hiff.mp e hmem]
  · obtain ⟨n, hfrom, -, hnumbered, hfree, hleast⟩ := freshName_of_mem "" hmem
    simp only [numbered, String.append_empty] at hnumbered hfree hleast
    exact ⟨n, hfrom, hname.trans hnumbered, hfree, hleast⟩

/-- A garage leads to cars twice and to a class whose name is what the second field for cars wants.
An attribute has the name that this field would get next. -/
def garage : Model where
  classes := [
    { name := "Garage", attributes := [⟨"car3", "int", .priv⟩] }, { name := "Car" },
    { name := "CAR2" }]
  associations := [
    { kind := .aggregation, departure := "Garage", arrival := "CAR2" },
    { kind := .generalization, departure := "Garage", arrival := "Car" },
    { kind := .composition, departure := "Garage", arrival := "Car" },
    { kind := .other, departure := "Garage", arrival := "Car", arrivalMultiplicity := .many }]

/-- The second field for cars has to count to four. -/
theorem fields_named_garage :
    ∃ c f g h, garage.class? "Garage" = some c ∧ fields garage c = [f, g, h] ∧
      (f.name, g.name, h.name) = ("car2", "car", "car4") ∧
      ((fields garage c).map Field.name).Nodup ∧ h.renamedFrom = some "car" ∧
      ∃ n, 2 ≤ n ∧ h.name = "car" ++ toString n ∧
        ∀ k, 2 ≤ k → k < n → "car" ++ toString k ∈ ["car3", "car2", "car"] := by
  let c : ClassDecl := { name := "Garage", attributes := [⟨"car3", "int", .priv⟩] }
  let f : Field := ⟨"car2", none, "CAR2", false, .aggregation⟩
  let g : Field := ⟨"car", none, "Car", false, .composition⟩
  let h : Field := ⟨"car4", some "car", "Car", true, .other⟩
  have hfields : fields garage c = [f, g, h] := by decide +kernel
  obtain ⟨-, hnd, -, hnamed⟩ := fields_named garage c
  obtain ⟨-, hfree, htwice⟩ := hnamed [f, g] h [] hfields
  -- the field tells that its name was taken
  have htaken := not_not.mp (mt hfree.mpr (by decide))
  obtain ⟨hrenamed, n, hfrom, hname, -, hleast⟩ := htwice htaken
  rw [← Option.some.inj hrenamed] at hname hleast
  exact ⟨c, f, g, h, rfl, hfields, rfl, hnd, rfl, n, hfrom, hname, hleast⟩

end Blueprint.Skeleton

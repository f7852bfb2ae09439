import Blueprint.Proofs.Model.Operations
import Blueprint.Proofs.Skeleton.Fields
import Blueprint.Skeleton.Constructor
import Mathlib.Data.List.Count

/-!
# Constructors fit together

The parameters of a constructor come in three parts: those for the attributes of its class, those
that it hands on to the superclass, and those for the aggregations of its class. Names are found for
all of them in one go, so a name may be numbered because of any other part. The types and the places
of the parameters stay as they are wanted, and that is what the uses of the parameters rest on.

What a class hands on is what its superclass wants for itself: the first and the last part there.
So a call of the superclass's constructor lacks the middle part, which the superclass in turn hands
on, and nothing else.
-/

namespace Blueprint.Skeleton.Constructor

variable {m : Model} {c s : ClassDecl} {fs : List Field} {k : Constructor}

/-- The parameters that a class wants for itself, not for its superclass. -/
def ownWanted (c : ClassDecl) (fs : List Field) : List Parameter :=
  ofAttributes c.attributes ++ ofAggregations fs

/-- The type of the parameter that a name stands for in the body of a constructor. -/
def typeOf? (k : Constructor) (name : String) : Option String :=
  (k.parameters.find? (·.name == name)).map Parameter.type

/-! ## Parameters under other names -/

/-- Parameters under other names. -/
def named (ps : List Parameter) (names : List String) : List Parameter :=
  List.zipWith (fun p name => { p with name }) ps names

theorem map_name_named {ps : List Parameter} {names : List String}
    (h : ps.length = names.length) : (named ps names).map Parameter.name = names := by
  rw [named, List.map_zipWith, ← List.map_uncurry_zip_eq_zipWith]
  exact List.map_snd_zip (Nat.le_of_eq h.symm)

theorem map_type_named {ps : List Parameter} {names : List String}
    (h : ps.length = names.length) :
    (named ps names).map Parameter.type = ps.map Parameter.type := by
  have hfst : (named ps names).map Parameter.type =
      ((ps.zip names).map Prod.fst).map Parameter.type := by
    rw [named, List.map_zipWith, ← List.map_uncurry_zip_eq_zipWith, List.map_map]
    rfl
  rw [hfst, List.map_fst_zip (Nat.le_of_eq h)]

/-- Where no two parameters share a name, each of them is found under its own. -/
theorem map_typeOf? (hnd : (k.parameters.map Parameter.name).Nodup) {ps : List Parameter}
    (hps : ps ⊆ k.parameters) :
    (ps.map Parameter.name).map k.typeOf? = (ps.map Parameter.type).map some := by
  rw [List.map_map, List.map_map]
  refine List.map_congr_left fun p hp => ?_
  have hfound : k.parameters.find? (·.name == p.name) = some p :=
    (find?_key_eq_some_iff hnd).mpr ⟨hps hp, rfl⟩
  simp only [Function.comp, typeOf?, hfound, Option.map_some]

/-! ## The parts of a constructor -/

/-- A constructor whose parameters are cut into the part for the attributes of a class, the part
that is handed on, and the part for aggregations. -/
structure Parts (k : Constructor) (c : ClassDecl) (fs : List Field)
    (inherited : Option (List Parameter)) (first middle last : List Parameter) : Prop where
  parameters_eq : k.parameters = first ++ middle ++ last
  names_nodup : (k.parameters.map Parameter.name).Nodup
  first_types : first.map Parameter.type = c.attributes.map Attribute.type
  middle_types : middle.map Parameter.type = (inherited.getD []).map Parameter.type
  last_types : last.map Parameter.type = (fs.filter Field.isAggregation).map Field.type
  superArguments_eq : k.superArguments = inherited.map fun _ => middle.map Parameter.name
  assigned_fields : k.assignments.map Prod.fst =
    c.attributes.map Attribute.name ++ (fs.filter Field.isAggregation).map Field.name
  assigned_parameters : k.assignments.map Prod.snd = (first ++ last).map Parameter.name
  compositions_eq : k.compositions = fs.filter Field.isComposition

theorem map_name_ownWanted : (ownWanted c fs).map Parameter.name =
    c.attributes.map Attribute.name ++ (fs.filter Field.isAggregation).map Field.name := by
  rw [ownWanted, ofAttributes, ofAggregations, List.map_append, List.map_map, List.map_map]
  rfl

theorem map_type_ownWanted : (ownWanted c fs).map Parameter.type =
    c.attributes.map Attribute.type ++ (fs.filter Field.isAggregation).map Field.type := by
  rw [ownWanted, ofAttributes, ofAggregations, List.map_append, List.map_map, List.map_map]
  rfl

/-- Whatever is handed on, a constructor has three parts. -/
theorem exists_parts (c : ClassDecl) (fs : List Field) (inherited : Option (List Parameter)) :
    ∃ first middle last, Parts (build c fs inherited) c fs inherited first middle last := by
  set own := ofAttributes c.attributes with hown
  set handed := inherited.getD [] with hhanded
  set aggregated := ofAggregations fs with haggregated
  set names := freshNames "" [] ((own ++ handed ++ aggregated).map Parameter.name) with hnames
  -- the names are cut where the wanted parameters are
  obtain ⟨n₁, n₂, n₃, hcut, h₁, h₂, h₃⟩ : ∃ n₁ n₂ n₃, names = n₁ ++ n₂ ++ n₃ ∧
      own.length = n₁.length ∧ handed.length = n₂.length ∧ aggregated.length = n₃.length := by
    rw [hnames, List.map_append, List.map_append, freshNames_append, freshNames_append]
    exact ⟨_, _, _, rfl, by simp, by simp, by simp⟩
  have hlater : names.drop own.length = n₂ ++ n₃ := by
    rw [hcut, List.append_assoc, h₁, List.drop_left]
  have hparameters : (build c fs inherited).parameters =
      named own n₁ ++ named handed n₂ ++ named aggregated n₃ := by
    have hfirst : (own ++ handed).length = (n₁ ++ n₂).length := by
      rw [List.length_append, List.length_append, h₁, h₂]
    change named (own ++ handed ++ aggregated) names = _
    rw [hcut, named, List.zipWith_append hfirst, List.zipWith_append h₁]
    rfl
  have hassigned : (build c fs inherited).assignments =
      ((own ++ aggregated).map Parameter.name).zip (n₁ ++ n₃) := by
    change ((own ++ aggregated).map Parameter.name).zip
      (names.take own.length ++ (names.drop own.length).drop handed.length) = _
    rw [hlater, h₂, List.drop_left, hcut, List.append_assoc, h₁, List.take_left]
  have hlength : ((own ++ aggregated).map Parameter.name).length = (n₁ ++ n₃).length := by
    rw [List.length_map, List.length_append, List.length_append, h₁, h₃]
  refine ⟨named own n₁, named handed n₂, named aggregated n₃, hparameters, ?_, ?_, ?_, ?_, ?_, ?_,
    ?_, rfl⟩
  · rw [hparameters, List.map_append, List.map_append, map_name_named h₁, map_name_named h₂,
      map_name_named h₃, ← hcut, hnames]
    exact nodup_freshNames _
  · rw [map_type_named h₁, hown, ofAttributes, List.map_map]
    rfl
  · rw [map_type_named h₂]
  · rw [map_type_named h₃, haggregated, ofAggregations, List.map_map]
    rfl
  · change (inherited.map fun _ => (names.drop own.length).take handed.length) = _
    rw [hlater, h₂, List.take_left, map_name_named h₂]
  · rw [hassigned, List.map_fst_zip (Nat.le_of_eq hlength)]
    exact map_name_ownWanted
  · rw [hassigned, List.map_snd_zip (Nat.le_of_eq hlength.symm), List.map_append,
      map_name_named h₁, map_name_named h₃]

/-! ## What is handed on -/

/-- A class hands on what the class that it extends wants for itself, and nothing if it extends
none. -/
theorem forwarded_eq_ok {inherited : Option (List Parameter)}
    (h : forwarded m c = .ok inherited) :
    inherited = (m.superclassOf c).map (fun s => ownWanted s (fields m s)) ∧
      inherited.isSome = c.superclass.isSome := by
  cases hsuper : c.superclass with
  | none =>
    rw [forwarded, hsuper] at h
    obtain rfl : none = inherited := Except.ok.inj h
    have hnone : m.superclassOf c = none := by
      rw [Model.superclassOf, hsuper]
      rfl
    rw [hnone]
    exact ⟨rfl, rfl⟩
  | some name =>
    cases hs : m.superclassOf c with
    | none =>
      simp only [forwarded, hsuper, hs] at h
      exact absurd h (by simp)
    | some s =>
      simp only [forwarded, hsuper, hs] at h
      obtain rfl := Except.ok.inj h
      exact ⟨rfl, rfl⟩

/-- A constructor of a class hands on what the class that it extends wants for itself. -/
theorem parts_of_ofClass (h : ofClass m c fs = .ok k) :
    ∃ inherited first middle last, forwarded m c = .ok inherited ∧
      Parts k c fs inherited first middle last := by
  cases hforwarded : forwarded m c with
  | error f =>
    rw [ofClass, hforwarded] at h
    exact absurd h (by simp [Except.map])
  | ok inherited =>
    rw [ofClass, hforwarded] at h
    obtain rfl : build c fs inherited = k := Except.ok.inj h
    obtain ⟨first, middle, last, hparts⟩ := exists_parts c fs inherited
    exact ⟨inherited, first, middle, last, rfl, hparts⟩

namespace Parts

variable {inherited : Option (List Parameter)} {first middle last : List Parameter}

theorem own_types (h : Parts k c fs inherited first middle last) :
    (first ++ last).map Parameter.type = (ownWanted c fs).map Parameter.type := by
  rw [List.map_append, h.first_types, h.last_types, map_type_ownWanted]

theorem handed_names (h : Parts k c fs inherited first middle last) :
    k.superArguments.getD [] = middle.map Parameter.name := by
  rw [h.superArguments_eq]
  cases inherited with
  | none =>
    have hnil : middle.map Parameter.type = [] := h.middle_types
    rw [List.map_eq_nil_iff.mp hnil]
    rfl
  | some ps => rfl

theorem middle_subset (h : Parts k c fs inherited first middle last) :
    middle ⊆ k.parameters := by
  rw [h.parameters_eq]
  intro p hp
  exact List.mem_append_left _ (List.mem_append_right _ hp)

theorem own_subset (h : Parts k c fs inherited first middle last) :
    first ++ last ⊆ k.parameters := by
  rw [h.parameters_eq]
  intro p hp
  rcases List.mem_append.mp hp with hp | hp
  · exact List.mem_append_left _ (List.mem_append_left _ hp)
  · exact List.mem_append_right _ hp

/-- Each parameter is used once, to set a field or as an argument. -/
theorem uses_perm (h : Parts k c fs inherited first middle last) :
    (k.assignments.map Prod.snd ++ k.superArguments.getD []).Perm
      (k.parameters.map Parameter.name) := by
  rw [h.assigned_parameters, h.handed_names, h.parameters_eq, ← List.map_append]
  refine List.Perm.map _ ?_
  rw [List.append_assoc, List.append_assoc]
  exact List.Perm.append_left first List.perm_append_comm

end Parts

/-! ## Fields in the body of a constructor -/

/-- A field that is set from a parameter is set once: no attribute and no other field shares its
name. -/
theorem count_assigned_of_aggregation {f : Field} (hf : f ∈ fields m c)
    (hkind : f.kind = .aggregation) :
    (c.attributes.map Attribute.name ++
      ((fields m c).filter Field.isAggregation).map Field.name).count f.name = 1 := by
  have hattribute := List.count_eq_zero_of_not_mem (name_ne_attribute hf)
  have hnd : (((fields m c).filter Field.isAggregation).map Field.name).Nodup :=
    (nodup_name_fields m c).sublist (List.filter_sublist.map _)
  have hmem : f.name ∈ ((fields m c).filter Field.isAggregation).map Field.name :=
    List.mem_map_of_mem (List.mem_filter.mpr ⟨hf, by simp [Field.isAggregation, hkind]⟩)
  rw [List.count_append, hattribute, List.count_eq_one_of_mem hnd hmem]

theorem not_mem_assigned_of_ne_aggregation {f : Field} (hf : f ∈ fields m c)
    (hkind : f.kind ≠ .aggregation) :
    f.name ∉ c.attributes.map Attribute.name ++
      ((fields m c).filter Field.isAggregation).map Field.name := by
  rw [List.mem_append, not_or]
  refine ⟨name_ne_attribute hf, ?_⟩
  intro hmem
  obtain ⟨g, hg, hname⟩ := List.mem_map.mp hmem
  obtain ⟨hg, haggregation⟩ := List.mem_filter.mp hg
  obtain rfl := List.inj_on_of_nodup_map (nodup_name_fields m c) hg hf hname
  exact hkind (by simpa [Field.isAggregation] using haggregation)

theorem count_compositions {f : Field} (hf : f ∈ fields m c) :
    ((fields m c).filter Field.isComposition).count f = if f.kind = .composition then 1 else 0 := by
  have hnd : (fields m c).Nodup := (nodup_name_fields m c).of_map
  by_cases hkind : f.kind = .composition
  · rw [if_pos hkind]
    exact List.count_eq_one_of_mem (hnd.filter _)
      (List.mem_filter.mpr ⟨hf, by simp [Field.isComposition, hkind]⟩)
  · rw [if_neg hkind]
    refine List.count_eq_zero_of_not_mem fun hmem => hkind ?_
    simpa [Field.isComposition] using (List.mem_filter.mp hmem).2

/-- A field for an association is set once, made once, or left alone, as its kind says. -/
theorem Parts.field_uses {inherited : Option (List Parameter)} {first middle last : List Parameter}
    (h : Parts k c (fields m c) inherited first middle last) {f : Field} (hf : f ∈ fields m c) :
    (f.kind = .aggregation ∧ (k.assignments.map Prod.fst).count f.name = 1 ∧
        k.compositions.count f = 0) ∨
      (f.kind = .composition ∧ (k.assignments.map Prod.fst).count f.name = 0 ∧
        k.compositions.count f = 1) ∨
      (f.kind = .other ∧ (k.assignments.map Prod.fst).count f.name = 0 ∧
        k.compositions.count f = 0) := by
  rw [h.assigned_fields, h.compositions_eq, count_compositions hf]
  cases hkind : f.kind with
  | generalization => exact absurd hkind (kind_ne_generalization hf)
  | aggregation => exact Or.inl ⟨rfl, count_assigned_of_aggregation hf hkind, rfl⟩
  | composition =>
    have hunset := not_mem_assigned_of_ne_aggregation hf (by simp [hkind])
    exact Or.inr (Or.inl ⟨rfl, List.count_eq_zero_of_not_mem hunset, rfl⟩)
  | other =>
    have hunset := not_mem_assigned_of_ne_aggregation hf (by simp [hkind])
    exact Or.inr (Or.inr ⟨rfl, List.count_eq_zero_of_not_mem hunset, rfl⟩)

/-- Every parameter of a constructor has its own name and is used once, where its type is the one
that is declared. The first and the last part set the attributes and the aggregations of the class,
place by place; the middle part, which is there only for a superclass, becomes the arguments of its
constructor. A field for an association is set once if it is an aggregation, made once if it is a
composition, and left alone otherwise. -/
theorem parameters_used_once (h : ofClass m c (fields m c) = .ok k) :
    let attributeNames := c.attributes.map Attribute.name
    let aggregations (c : ClassDecl) := (fields m c).filter Field.isAggregation
    let ownTypes (c : ClassDecl) :=
      c.attributes.map Attribute.type ++ (aggregations c).map Field.type
    (k.parameters.map Parameter.name).Nodup ∧
    (∃ first middle last, k.parameters = first ++ middle ++ last ∧
      first.map Parameter.type = c.attributes.map Attribute.type ∧
      middle.map Parameter.type = ((m.superclassOf c).map ownTypes).getD [] ∧
      last.map Parameter.type = (aggregations c).map Field.type ∧
      k.superArguments = (c.superclass.map fun _ => middle.map Parameter.name) ∧
      k.assignments.map Prod.fst = attributeNames ++ (aggregations c).map Field.name ∧
      k.assignments.map Prod.snd = (first ++ last).map Parameter.name) ∧
    (k.assignments.map fun a => k.typeOf? a.2) = (ownTypes c).map some ∧
    (k.assignments.map Prod.snd ++ k.superArguments.getD []).Perm
      (k.parameters.map Parameter.name) ∧
    ∀ f ∈ fields m c,
      (f.kind = .aggregation ∧ (k.assignments.map Prod.fst).count f.name = 1 ∧
        k.compositions.count f = 0) ∨
      (f.kind = .composition ∧ (k.assignments.map Prod.fst).count f.name = 0 ∧
        k.compositions.count f = 1) ∨
      (f.kind = .other ∧ (k.assignments.map Prod.fst).count f.name = 0 ∧
        k.compositions.count f = 0) := by
  intro attributeNames aggregations ownTypes
  obtain ⟨inherited, first, middle, last, hforwarded, hparts⟩ := parts_of_ofClass h
  obtain ⟨hinherited, hsome⟩ := forwarded_eq_ok hforwarded
  refine ⟨hparts.names_nodup, ⟨first, middle, last, hparts.parameters_eq, hparts.first_types, ?_,
    hparts.last_types, ?_, hparts.assigned_fields, hparts.assigned_parameters⟩, ?_,
    hparts.uses_perm, ?_⟩
  · rw [hparts.middle_types, hinherited]
    cases m.superclassOf c with
    | none => rfl
    | some s => exact map_type_ownWanted
  · rw [hparts.superArguments_eq]
    cases inherited with
    | none =>
      have hnone : c.superclass = none :=
        Option.isNone_iff_eq_none.mp (Option.isSome_eq_false_iff.mp hsome.symm)
      rw [hnone]
      rfl
    | some ps =>
      obtain ⟨name, hname⟩ := Option.isSome_iff_exists.mp hsome.symm
      rw [hname]
      rfl
  · have hfound := map_typeOf? hparts.names_nodup hparts.own_subset
    rw [← hparts.assigned_parameters, hparts.own_types, map_type_ownWanted, List.map_map] at hfound
    exact hfound
  · intro f hf
    exact hparts.field_uses hf

/-- Persons are entities, and employees are persons that have addresses and a manager. All three
have an `id`, and an attribute has the name that the parameter for the id of an entity gets. -/
def staff : Model where
  classes := [
    { name := "Entity", attributes := [⟨"id", "long", .priv⟩] },
    { name := "Person", superclass := some "Entity"
      attributes := [⟨"id", "String", .priv⟩, ⟨"id2", "int", .priv⟩] },
    { name := "Employee", superclass := some "Person"
      attributes := [⟨"id", "long", .priv⟩] },
    { name := "Address" }]
  associations := [
    { kind := .generalization, departure := "Person", arrival := "Entity" },
    { kind := .aggregation, departure := "Person", arrival := "Address"
      arrivalMultiplicity := .many },
    { kind := .generalization, departure := "Employee", arrival := "Person" },
    { kind := .aggregation, departure := "Employee", arrival := "Employee" },
    { kind := .composition, departure := "Employee", arrival := "Address" }]

/-- The constructor of employees uses each of its parameters once. -/
theorem parameters_used_once_staff :
    ∃ c k, staff.class? "Employee" = some c ∧ ofClass staff c (fields staff c) = .ok k ∧
      k.parameters.map Parameter.name = ["id", "id2", "id22", "address", "employee"] ∧
      (k.parameters.map Parameter.name).Nodup ∧
      (k.assignments.map Prod.snd ++ k.superArguments.getD []).Perm
        (k.parameters.map Parameter.name) := by
  obtain ⟨c, k, hc, hk, hnames⟩ : ∃ c k, staff.class? "Employee" = some c ∧
      ofClass staff c (fields staff c) = .ok k ∧
      k.parameters.map Parameter.name = ["id", "id2", "id22", "address", "employee"] :=
    ⟨_, _, rfl, rfl, by decide +kernel⟩
  obtain ⟨hnd, -, -, hperm, -⟩ := parameters_used_once hk
  exact ⟨c, k, hc, hk, hnames, hnd, hperm⟩

/-! ## The call of the superclass's constructor -/

/-- The arguments that a class hands to the constructor of the class that it extends have the types
of the parameters there, in their order, but for those that are handed on from there: these are
missing. So all parameters are met just where nothing is handed on, and then there is nothing in
between. -/
theorem superArguments_fit (hs : m.superclassOf c = some s) (hk : ofClass m c (fields m c) = .ok k)
    {ks : Constructor} (hks : ofClass m s (fields m s) = .ok ks) :
    ∃ arguments first middle last, k.superArguments = some arguments ∧
      ks.parameters = first ++ middle ++ last ∧
      middle.map Parameter.name = ks.superArguments.getD [] ∧
      arguments.map k.typeOf? = ((first ++ last).map Parameter.type).map some ∧
      (s.superclass = none →
        arguments.map k.typeOf? = (ks.parameters.map Parameter.type).map some) ∧
      (arguments.length = ks.parameters.length ↔ ks.superArguments.getD [] = []) := by
  obtain ⟨inherited, _, handed, _, hforwarded, hparts⟩ := parts_of_ofClass hk
  obtain ⟨inherited', first, middle, last, hforwarded', hparts'⟩ := parts_of_ofClass hks
  have hinherited : inherited = some (ownWanted s (fields m s)) := by
    rw [(forwarded_eq_ok hforwarded).1, hs, Option.map_some]
  rw [hinherited] at hparts
  -- both sides have the types of what the superclass wants for itself
  have htypes : handed.map Parameter.type = (first ++ last).map Parameter.type :=
    hparts.middle_types.trans hparts'.own_types.symm
  have harguments : (handed.map Parameter.name).map k.typeOf? =
      ((first ++ last).map Parameter.type).map some := by
    rw [map_typeOf? hparts.names_nodup hparts.middle_subset, htypes]
  refine ⟨_, first, middle, last, hparts.superArguments_eq, hparts'.parameters_eq,
    hparts'.handed_names.symm, harguments, ?_, ?_⟩
  · intro hnone
    have hinherited' : inherited' = none := by
      rw [(forwarded_eq_ok hforwarded').1, Model.superclassOf, hnone]
      rfl
    have hmiddle : middle = [] := by
      have htypes' := hparts'.middle_types
      rw [hinherited'] at htypes'
      exact List.map_eq_nil_iff.mp htypes'
    rw [harguments, hparts'.parameters_eq, hmiddle, List.append_nil]
  · have hlength : (handed.map Parameter.name).length = (first ++ last).length := by
      have := congrArg List.length htypes
      simpa using this
    rw [hlength, hparts'.handed_names, hparts'.parameters_eq, List.map_eq_nil_iff,
      ← List.length_eq_zero_iff]
    simp only [List.length_append]
    omega

/-- Employees hand on what persons want for themselves, and not the id of an entity. -/
theorem superArguments_fit_staff :
    ∃ c s k ks arguments, staff.superclassOf c = some s ∧
      ofClass staff c (fields staff c) = .ok k ∧ ofClass staff s (fields staff s) = .ok ks ∧
      ks.parameters.map Parameter.type = ["String", "int", "long", "List<Address>"] ∧
      k.superArguments = some arguments ∧
      arguments.map k.typeOf? = [some "String", some "int", some "List<Address>"] ∧
      arguments.length ≠ ks.parameters.length := by
  obtain ⟨c, s, k, ks, hs, hk, hks, htypes, hhanded, harguments⟩ : ∃ c s k ks,
      staff.superclassOf c = some s ∧ ofClass staff c (fields staff c) = .ok k ∧
      ofClass staff s (fields staff s) = .ok ks ∧
      ks.parameters.map Parameter.type = ["String", "int", "long", "List<Address>"] ∧
      ks.superArguments.getD [] ≠ [] ∧
      (k.superArguments.getD []).map k.typeOf? =
        [some "String", some "int", some "List<Address>"] :=
    ⟨staff.classes[2], _, _, _, rfl, rfl, rfl, by decide +kernel, by decide +kernel,
      by decide +kernel⟩
  obtain ⟨arguments, -, -, -, hsome, -, -, -, -, hlength⟩ := superArguments_fit hs hk hks
  rw [hsome] at harguments
  exact ⟨c, s, k, ks, arguments, hs, hk, hks, htypes, hsome, harguments,
    fun h => hhanded (hlength.mp h)⟩

end Blueprint.Skeleton.Constructor

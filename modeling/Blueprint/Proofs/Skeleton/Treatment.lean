import Blueprint.Proofs.Skeleton.Constructor
import Blueprint.Proofs.Skeleton.Layout

/-!
# What class sources do about a field

A field for an association is declared with a type. What is done about it depends on the kind of the
association: a parameter of the same type sets an aggregation, and every class that extends this one
hands on such a parameter, too; the body of the constructor makes what a composition holds; and
nothing at all is done about any other field.
-/

namespace Blueprint.Skeleton

variable {config : Config}

/-- What the pages of a model do about a field on one of them, whose association is of a kind. The
field has a type, its page has the constructor `k`, and its content is made by the lines `making` if it
is made at all. -/
structure Page.Treats (p : Page config) (m : Model) (pages : List (Page config)) (k : Constructor)
    (kind : RelationKind) (name type : String) (making : List String) : Prop where
  /-- The page has the lines of the constructor. -/
  constructs : p.Constructs k
  /-- A parameter sets the field if it is for an aggregation. -/
  count_assigned : (k.assignments.map Prod.fst).count name = if kind = .aggregation then 1 else 0
  /-- The body makes its content if it is for a composition. -/
  count_made : (k.compositions.map Field.name).count name = if kind = .composition then 1 else 0
  /-- All parameters set fields, or are handed on. -/
  uses_perm : (k.assignments.map Prod.snd ++ k.superArguments.getD []).Perm
    (k.parameters.map Parameter.name)
  /-- A class that extends this one hands on one parameter for each field that is set here. -/
  handed : ∀ b ∈ m.classes, b.superclass = some p.file.className → ∃ q ∈ pages, ∃ kb arguments,
    q.file.className = b.name ∧ q.Constructs kb ∧ kb.superArguments = some arguments ∧
    arguments.map kb.typeOf? = k.assignments.map fun x => k.typeOf? x.2
  /-- The parameter for an aggregation has the type of the field, and so has the one that is handed
  on for it. -/
  aggregation : kind = .aggregation → ∃ (n : Nat) (parameter : String),
    k.assignments[n]? = some (name, parameter) ∧ k.typeOf? parameter = some type ∧
    ∀ b ∈ m.classes, b.superclass = some p.file.className →
      ∃ q ∈ pages, ∃ (kb : Constructor) (arguments : List String) (argument : String),
        q.file.className = b.name ∧ q.Constructs kb ∧ kb.superArguments = some arguments ∧
        arguments[n]? = some argument ∧ kb.typeOf? argument = some type
  /-- The lines that make a composition are in the body. -/
  composition : kind = .composition → ∃ before after, p.body = before ++ making ++ after

variable {m : Model} {b c : ClassDecl} {k : Constructor} {pages : List (Page config)}
  {p : Page config} {f : Field}

namespace Constructor

/-- A constructor sets the fields that its class wants parameters for, each from one of its type. -/
theorem assigned_of_ofClass {fs : List Field} (h : ofClass m c fs = .ok k) :
    k.assignments.map Prod.fst = (ownWanted c fs).map Parameter.name ∧
      (k.assignments.map fun x => k.typeOf? x.2) = (ownWanted c fs).map fun p => some p.type := by
  obtain ⟨_, first, _, last, -, hparts⟩ := parts_of_ofClass h
  have htypes := map_typeOf? hparts.names_nodup hparts.own_subset
  rw [← hparts.assigned_parameters, hparts.own_types, List.map_map, List.map_map] at htypes
  exact ⟨hparts.assigned_fields.trans map_name_ownWanted.symm, htypes⟩

/-- A class that extends another one hands on parameters of the types that are wanted there. -/
theorem handed_of_ofClass (hsuper : m.superclassOf b = some c)
    (h : ofClass m b (fields m b) = .ok k) :
    ∃ arguments, k.superArguments = some arguments ∧
      arguments.map k.typeOf? = (ownWanted c (fields m c)).map fun p => some p.type := by
  obtain ⟨inherited, _, middle, _, hforwarded, hparts⟩ := parts_of_ofClass h
  have hinherited : inherited = some (ownWanted c (fields m c)) := by
    rw [(forwarded_eq_ok hforwarded).1, hsuper, Option.map_some]
  rw [hinherited] at hparts
  have htypes := map_typeOf? hparts.names_nodup hparts.middle_subset
  rw [hparts.middle_types, Option.getD_some, List.map_map (f := Parameter.type)] at htypes
  exact ⟨_, hparts.superArguments_eq, htypes⟩

theorem parameter_mem_ownWanted (hf : f ∈ fields m c) (hkind : f.kind = .aggregation) :
    f.parameter ∈ ownWanted c (fields m c) := by
  have hmem : f ∈ (fields m c).filter Field.isAggregation :=
    List.mem_filter.mpr ⟨hf, by simp [Field.isAggregation, hkind]⟩
  exact List.mem_append_right _ (List.mem_map_of_mem hmem)

end Constructor

/-- What is made for a composition stands in the body as it is. -/
theorem exists_body_eq (h : f ∈ k.compositions) :
    ∃ before after, k.body = before ++ f.creationLines ++ after := by
  obtain ⟨before, after, hsplit⟩ := List.append_of_mem h
  simp only [Constructor.body, hsplit, List.flatMap_append, List.flatMap_cons, ← List.append_assoc]
  exact ⟨_, _, rfl⟩

theorem count_name_compositions (hf : f ∈ fields m c) :
    (((fields m c).filter Field.isComposition).map Field.name).count f.name =
      if f.kind = .composition then 1 else 0 := by
  have hnd : (((fields m c).filter Field.isComposition).map Field.name).Nodup :=
    (nodup_name_fields m c).sublist (List.filter_sublist.map _)
  by_cases hkind : f.kind = .composition
  · have hmem : f ∈ (fields m c).filter Field.isComposition :=
      List.mem_filter.mpr ⟨hf, by simp [Field.isComposition, hkind]⟩
    rw [if_pos hkind, List.count_eq_one_of_mem hnd (List.mem_map_of_mem hmem)]
  · rw [if_neg hkind]
    refine List.count_eq_zero_of_not_mem fun hmem => hkind ?_
    obtain ⟨g, hg, hname⟩ := List.mem_map.mp hmem
    obtain ⟨hgf, hcomposition⟩ := List.mem_filter.mp hg
    obtain rfl := List.inj_on_of_nodup_map (nodup_name_fields m c) hgf hf hname
    simpa [Field.isComposition] using hcomposition

/-- The page of a class that extends another one hands on what is wanted there. -/
theorem handed_of_pages (hnd : m.names.Nodup)
    (hpages : List.Forall₂ (fun c p => p.Shows m c) m.classes pages) (hc : c ∈ m.classes)
    (hb : b ∈ m.classes) (hsuper : b.superclass = some c.name) :
    ∃ q ∈ pages, ∃ kb arguments, q.file.className = b.name ∧ q.Constructs kb ∧
      kb.superArguments = some arguments ∧ arguments.map kb.typeOf? =
        (Constructor.ownWanted c (fields m c)).map fun p => some p.type := by
  obtain ⟨q, hq, hshows⟩ := exists_left_of_mem hpages.flip hb
  obtain ⟨kb, hkb, hconstructs⟩ := hshows.constructs
  have hfound : m.superclassOf b = some c := by
    rw [Model.superclassOf, hsuper, Option.bind_some]
    exact (find?_key_eq_some_iff hnd).mpr ⟨hc, rfl⟩
  obtain ⟨arguments, hsome, harguments⟩ := Constructor.handed_of_ofClass hfound hkb
  exact ⟨q, hq, kb, arguments, hshows.className_eq, hconstructs, hsome, harguments⟩

/-- The pages of a model do about each field what the kind of its association asks for. -/
theorem treats_of_mem_fields (hnd : m.names.Nodup)
    (hpages : List.Forall₂ (fun c p => p.Shows m c) m.classes pages) (hc : c ∈ m.classes)
    (hp : p.Shows m c) (hf : f ∈ fields m c) :
    ∃ k, p.Treats m pages k f.kind f.name f.type f.creationLines := by
  obtain ⟨k, hk, hconstructs⟩ := hp.constructs
  obtain ⟨_, _, _, _, -, hparts⟩ := Constructor.parts_of_ofClass hk
  obtain ⟨hnames, htypes⟩ := Constructor.assigned_of_ofClass hk
  have hhanded := fun (b : ClassDecl) hb (hsuper : b.superclass = some p.file.className) =>
    handed_of_pages hnd hpages hc hb (hp.className_eq ▸ hsuper)
  refine ⟨k, hconstructs, ?_, ?_, hparts.uses_perm, ?_, ?_, ?_⟩
  · rw [hparts.assigned_fields]
    by_cases hkind : f.kind = .aggregation
    · rw [if_pos hkind, Constructor.count_assigned_of_aggregation hf hkind]
    · rw [if_neg hkind, List.count_eq_zero_of_not_mem
        (Constructor.not_mem_assigned_of_ne_aggregation hf hkind)]
  · rw [hparts.compositions_eq, count_name_compositions hf]
  · intro b hb hsuper
    obtain ⟨q, hq, kb, arguments, hname, hkb, hsome, harguments⟩ := hhanded b hb hsuper
    exact ⟨q, hq, kb, arguments, hname, hkb, hsome, harguments.trans htypes.symm⟩
  · intro hkind
    -- the place of the field among all that the class wants parameters for
    obtain ⟨n, hn⟩ := List.mem_iff_getElem?.mp (Constructor.parameter_mem_ownWanted hf hkind)
    obtain ⟨⟨name, parameter⟩, hx, hname⟩ := exists_getElem?_of_map_eq hnames hn
    obtain ⟨x, hx', htype⟩ := exists_getElem?_of_map_eq htypes hn
    obtain rfl : (name, parameter) = x := Option.some.inj (hx.symm.trans hx')
    obtain rfl : name = f.name := hname
    refine ⟨n, parameter, hx, htype, fun b hb hsuper => ?_⟩
    obtain ⟨q, hq, kb, arguments, hname, hkb, hsome, harguments⟩ := hhanded b hb hsuper
    obtain ⟨argument, hargument, hsame⟩ := exists_getElem?_of_map_eq harguments hn
    exact ⟨q, hq, kb, arguments, argument, hname, hkb, hsome, hargument, hsame⟩
  · intro hkind
    have hmade : f ∈ k.compositions := by
      rw [hparts.compositions_eq]
      exact List.mem_filter.mpr ⟨hf, by simp [Field.isComposition, hkind]⟩
    rw [hconstructs.body_eq, ← k.body_eq]
    exact exists_body_eq hmade

end Blueprint.Skeleton

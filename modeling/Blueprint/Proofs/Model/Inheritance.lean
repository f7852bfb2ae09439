import Blueprint.Proofs.Model.Edges
import Blueprint.Proofs.Model.Frame
import Mathlib.Combinatorics.Pigeonhole
import Mathlib.Logic.Relation

/-!
# Inheritance

Going on from a class to what it extends, one comes to an end or back to a class that was there
before. A reading sees to it that no class extends itself. It does not look any further: where the
edges of a description make classes extend each other in a circle, so do the classes of its model.
But for such circles all walks end, before they are longer than there are classes.
-/

namespace Blueprint

open Relation

/-- The edges of a description make a class extend another one. -/
def Description.Extends (d : Description) (name other : String) : Prop :=
  d.superclass? d.edges name = some other

instance (d : Description) (name other : String) : Decidable (d.Extends name other) :=
  inferInstanceAs (Decidable (_ = _))

namespace Model

/-- A class of a model extends another one. -/
def Extends (m : Model) (name other : String) : Prop :=
  ∃ c ∈ m.classes, c.name = name ∧ c.superclass = some other

/-- The class that is come to by going on from a class to what it extends, `k` times. -/
def ancestor? (m : Model) (c : ClassDecl) : Nat → Option ClassDecl
  | 0 => some c
  | k + 1 => (m.ancestor? c k).bind m.superclassOf

/-- Going on from a class to what it extends comes back to a class that was there before. -/
def Revisits (m : Model) (c : ClassDecl) : Prop :=
  ∃ i j b, i < j ∧ m.ancestor? c i = some b ∧ m.ancestor? c j = some b

variable {m : Model} {b c : ClassDecl} {name other : String} {i k : Nat}

theorem ancestor?_add (m : Model) (c : ClassDecl) (i k : Nat) :
    m.ancestor? c (i + k) = (m.ancestor? c i).bind (m.ancestor? · k) := by
  induction k with
  | zero => exact (Option.bind_fun_some _).symm
  | succ k ih =>
    rw [← Nat.add_assoc, ancestor?, ih, Option.bind_assoc]
    rfl

theorem mem_of_superclassOf (h : m.superclassOf c = some b) :
    b ∈ m.classes ∧ c.superclass = some b.name := by
  obtain ⟨name, hname, hfind⟩ := Option.bind_eq_some_iff.mp h
  have hb : b.name = name := by simpa using List.find?_some hfind
  exact ⟨List.mem_of_find?_eq_some hfind, hb ▸ hname⟩

/-! ## Walks and chains -/

/-- A walk leads along a chain of classes that extend each other. -/
theorem reflTransGen_of_ancestor? (hc : c ∈ m.classes) (h : m.ancestor? c k = some b) :
    b ∈ m.classes ∧ ReflTransGen m.Extends c.name b.name := by
  induction k generalizing b with
  | zero =>
    obtain rfl := Option.some.inj h
    exact ⟨hc, .refl⟩
  | succ k ih =>
    obtain ⟨b', hwalk, hstep⟩ := Option.bind_eq_some_iff.mp h
    obtain ⟨hb', hchain⟩ := ih hwalk
    obtain ⟨hb, hsuper⟩ := mem_of_superclassOf hstep
    exact ⟨hb, hchain.tail ⟨b', hb', rfl, hsuper⟩⟩

theorem transGen_of_ancestor? (hc : c ∈ m.classes) (h : m.ancestor? c (k + 1) = some b) :
    TransGen m.Extends c.name b.name := by
  obtain ⟨b', hwalk, hstep⟩ := Option.bind_eq_some_iff.mp h
  obtain ⟨hb', hchain⟩ := reflTransGen_of_ancestor? hc hwalk
  exact .tail' hchain ⟨b', hb', rfl, (mem_of_superclassOf hstep).2⟩

section Known

variable (hnd : m.names.Nodup)
  (hknown : ∀ c ∈ m.classes, ∀ name, c.superclass = some name → name ∈ m.names)

include hnd

theorem eq_of_name_eq (hb : b ∈ m.classes) (hc : c ∈ m.classes) (h : b.name = c.name) : b = c :=
  List.inj_on_of_nodup_map hnd hb hc h

include hknown

/-- Where a class extends another one, one can go on there. -/
theorem exists_superclassOf (hc : c ∈ m.classes) (h : m.Extends c.name other) :
    ∃ b, m.superclassOf c = some b ∧ b ∈ m.classes ∧ b.name = other := by
  obtain ⟨c', hc', hname, hsuper⟩ := h
  obtain rfl := eq_of_name_eq hnd hc' hc hname
  obtain ⟨b, hb⟩ := Option.isSome_iff_exists.mp (class?_isSome_iff.mpr (hknown c' hc' other hsuper))
  have hstep : m.superclassOf c' = some b := by rw [superclassOf, hsuper]; exact hb
  obtain ⟨hmem, hsame⟩ := mem_of_superclassOf hstep
  rw [hsuper] at hsame
  exact ⟨b, hstep, hmem, (Option.some.inj hsame).symm⟩

theorem map_name_superclassOf (hc : c ∈ m.classes) :
    (m.superclassOf c).map ClassDecl.name = c.superclass := by
  cases hsuper : c.superclass with
  | none =>
    rw [superclassOf, hsuper]
    rfl
  | some other =>
    obtain ⟨b, hb, -, hname⟩ := exists_superclassOf hnd hknown hc ⟨c, hc, rfl, hsuper⟩
    rw [hb, Option.map_some, hname]

/-- Along a chain one can walk to its end. -/
theorem exists_ancestor?_of_reflTransGen (hc : c ∈ m.classes)
    (h : ReflTransGen m.Extends c.name name) :
    ∃ k b, m.ancestor? c k = some b ∧ b ∈ m.classes ∧ b.name = name := by
  induction h with
  | refl => exact ⟨0, c, rfl, hc, rfl⟩
  | tail _ hstep ih =>
    obtain ⟨k, b, hwalk, hb, rfl⟩ := ih
    obtain ⟨b', hnext, hb', hname⟩ := exists_superclassOf hnd hknown hb hstep
    exact ⟨k + 1, b', by rw [ancestor?, hwalk]; exact hnext, hb', hname⟩

theorem exists_ancestor?_of_transGen (hc : c ∈ m.classes) (h : TransGen m.Extends c.name name) :
    ∃ k b, m.ancestor? c (k + 1) = some b ∧ b ∈ m.classes ∧ b.name = name := by
  obtain ⟨between, hchain, hstep⟩ := TransGen.tail'_iff.mp h
  obtain ⟨k, b, hwalk, hb, rfl⟩ := exists_ancestor?_of_reflTransGen hnd hknown hc hchain
  obtain ⟨b', hnext, hb', hname⟩ := exists_superclassOf hnd hknown hb hstep
  exact ⟨k, b', by rw [ancestor?, hwalk]; exact hnext, hb', hname⟩

/-- A walk comes back to a class if and only if it reaches a circle. -/
theorem revisits_iff (hc : c ∈ m.classes) :
    m.Revisits c ↔
      ∃ name, ReflTransGen m.Extends c.name name ∧ TransGen m.Extends name name := by
  constructor
  · rintro ⟨i, j, b, hlt, hi, hj⟩
    obtain ⟨hb, hchain⟩ := reflTransGen_of_ancestor? hc hi
    have hround : m.ancestor? b (j - i - 1 + 1) = some b := by
      have hsum : i + (j - i - 1 + 1) = j := by omega
      rw [← hsum, ancestor?_add, hi] at hj
      exact hj
    exact ⟨b.name, hchain, transGen_of_ancestor? hb hround⟩
  · rintro ⟨name, hchain, hround⟩
    obtain ⟨i, b, hi, hb, rfl⟩ := exists_ancestor?_of_reflTransGen hnd hknown hc hchain
    obtain ⟨k, b', hk, hb', hname⟩ := exists_ancestor?_of_transGen hnd hknown hb hround
    obtain rfl := eq_of_name_eq hnd hb' hb hname
    refine ⟨i, i + (k + 1), b', by omega, hi, ?_⟩
    rw [ancestor?_add, hi]
    exact hk

end Known

/-! ## Walks that end -/

theorem exists_ancestor?_of_le (hle : i ≤ k) (h : m.ancestor? c k = some b) :
    ∃ b', m.ancestor? c i = some b' := by
  rw [← Nat.add_sub_cancel' hle, ancestor?_add] at h
  obtain ⟨b', hb', -⟩ := Option.bind_eq_some_iff.mp h
  exact ⟨b', hb'⟩

/-- A walk that is as long as there are classes has come to one of them twice. -/
theorem revisits_of_ancestor? (hc : c ∈ m.classes)
    (h : m.ancestor? c m.classes.length = some b) : m.Revisits c := by
  classical
  have hwalk : ∀ i ∈ Finset.range (m.classes.length + 1), ∃ b', m.ancestor? c i = some b' :=
    fun i hi => exists_ancestor?_of_le (Nat.lt_succ_iff.mp (Finset.mem_range.mp hi)) h
  have hmem : ∀ i ∈ Finset.range (m.classes.length + 1),
      m.ancestor? c i ∈ (m.classes.map some).toFinset := by
    intro i hi
    obtain ⟨b', hb'⟩ := hwalk i hi
    rw [List.mem_toFinset, hb']
    exact List.mem_map_of_mem (reflTransGen_of_ancestor? hc hb').1
  have hcard : (m.classes.map some).toFinset.card < (Finset.range (m.classes.length + 1)).card := by
    rw [Finset.card_range]
    refine Nat.lt_succ_of_le ((List.toFinset_card_le _).trans ?_)
    rw [List.length_map]
  obtain ⟨i, hi, j, hj, hne, heq⟩ := Finset.exists_ne_map_eq_of_card_lt_of_maps_to hcard hmem
  obtain ⟨b', hb'⟩ := hwalk i hi
  rcases Nat.lt_or_gt_of_ne hne with hlt | hlt
  · exact ⟨i, j, b', hlt, hb', heq ▸ hb'⟩
  · exact ⟨j, i, b', hlt, heq ▸ hb', hb'⟩

end Model

/-! ## What a reading makes of the edges -/

/-- Where classes have different names, no edges make one extend itself. -/
theorem Description.not_extends_self {d : Description} (h : (d.readInto {}).failure = none)
    (name : String) : ¬d.Extends name name := by
  obtain ⟨hnodes, -⟩ := readInto_of_failure_eq_none h
  exact superclass?_ne (nodesRead_readNodes hnodes).nodup

/-- In a model that was read, classes extend what the edges make them extend. -/
theorem Description.extends_readInto {d : Description} (h : (d.readInto {}).failure = none) :
    (d.readInto {}).model.Extends = d.Extends := by
  obtain ⟨extended, hread⟩ := exists_edgesRead h
  obtain ⟨hnodes, hmodel, -⟩ := readInto_of_failure_eq_none h
  funext name other
  refine propext ⟨?_, fun hextends => ?_⟩
  · rintro ⟨c, hc, rfl, hsuper⟩
    exact (hread.superclass_eq c hc).symm.trans hsuper
  · -- the edge that makes a class extend another one leaves a node of this class
    obtain ⟨l, hfind, -⟩ := Option.map_eq_some_iff.mp hextends
    obtain ⟨-, e, he⟩ := mem_extensions (List.mem_of_find?_eq_some hfind)
    obtain ⟨-, hstart, -⟩ := classNode?_of_link? he
    obtain rfl : l.departure = name := by simpa using List.find?_some hfind
    have hmem : l.departure ∈ (d.readInto {}).model.names := by
      rw [names_readInto h]
      exact List.mem_append_right _ (List.mem_map_of_mem (mem_of_classNode? hstart).2)
    obtain ⟨c, hc, hname⟩ := List.mem_map.mp hmem
    rw [← hname] at hextends ⊢
    exact ⟨c, hc, rfl, (hread.superclass_eq c hc).trans hextends⟩

end Blueprint

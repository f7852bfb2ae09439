import Blueprint.Model.Reading
import Mathlib.Data.List.Basic
import Mathlib.Data.List.Nodup

/-!
# What the edges of a description mean

An edge is a link if both of its ends are nodes of classes. A generalization between different
classes makes its departure extend its arrival, as long as no link before it did. It is kept then,
as is every link that is no generalization, and becomes an association; all other edges are dropped.

Nothing of this needs a model, an index or names: links are told apart by the ids of their nodes.
-/

namespace Blueprint

/-- An edge between two nodes of classes. -/
structure Link where
  /-- The edge. -/
  edge : Edge
  /-- The node it leaves. -/
  start : Node
  /-- The node it leads to. -/
  stop : Node

namespace Link

/-- What a link means. -/
def kind (l : Link) : RelationKind := .ofEdge l.edge.type l.edge.aggregationType

/-- The name of the class that a link leaves. -/
def departure (l : Link) : String := Text.trim l.start.name

/-- The name of the class that a link leads to. -/
def arrival (l : Link) : String := Text.trim l.stop.name

/-- Whether a link makes a class extend another one. -/
def isExtension (l : Link) : Bool := l.kind == .generalization && l.start.id != l.stop.id

/-- The association that a link becomes. -/
def association (l : Link) : Association :=
  { kind := l.kind
    departure := l.departure
    arrival := l.arrival
    label := l.edge.middleLabel
    arrivalMultiplicity := .ofLabel l.edge.endLabel
    departureMultiplicity := .ofLabel l.edge.startLabel
    directionality := l.edge.directionality }

end Link

namespace Description

/-- The node of a class that has an id. -/
def classNode? (d : Description) (id : Option Int) : Option Node :=
  id.bind fun id => d.nodes.find? fun n => n.isClass && n.id == id

/-- The link that an edge is, if both of its ends are nodes of classes. -/
def link? (d : Description) (e : Edge) : Option Link :=
  (d.classNode? e.start).bind fun start =>
    (d.classNode? e.stop).map fun stop => { edge := e, start, stop }

/-- The links among edges that make a class extend another one. -/
def extensions (d : Description) (es : List Edge) : List Link :=
  (es.filterMap d.link?).filter Link.isExtension

/-- The class that a class extends after some edges: the arrival of the first that makes it extend
another one. -/
def superclass? (d : Description) (es : List Edge) (name : String) : Option String :=
  ((d.extensions es).find? (·.departure == name)).map Link.arrival

/-- The association that an edge becomes after the edges `before`. It becomes none if it is no link,
or a generalization from a class to itself, or one from a class that extends another one already. -/
def kept? (d : Description) (before : List Edge) (e : Edge) : Option Association :=
  (d.link? e).bind fun l =>
    if l.kind = .generalization ∧
        (l.start.id = l.stop.id ∨ ∃ x ∈ d.extensions before, x.start.id = l.start.id) then none
    else some l.association

/-- The associations that edges become, in their order. -/
def keptAssociations (d : Description) (es : List Edge) : List Association :=
  es.zipIdx.filterMap fun p => d.kept? (es.take p.2) p.1

variable {d : Description} {before : List Edge} {e : Edge} {l : Link}

/-! ## One more edge -/

theorem keptAssociations_append_singleton (d : Description) (before : List Edge) (e : Edge) :
    d.keptAssociations (before ++ [e]) =
      d.keptAssociations before ++ (d.kept? before e).toList := by
  have hfirst : before.zipIdx.filterMap (fun p => d.kept? ((before ++ [e]).take p.2) p.1) =
      d.keptAssociations before := by
    refine List.filterMap_congr fun p hp => ?_
    have hlt : p.2 < before.length := List.snd_lt_of_mem_zipIdx hp
    rw [List.take_append_of_le_length (Nat.le_of_lt hlt)]
  rw [keptAssociations, List.zipIdx_append, List.filterMap_append, hfirst]
  cases hkept : d.kept? before e <;> simp [hkept]

/-- More edges leave the associations of those before them as they are. -/
theorem keptAssociations_prefix (d : Description) (before es : List Edge) :
    d.keptAssociations before <+: d.keptAssociations (before ++ es) := by
  induction es generalizing before with
  | nil => exact ⟨[], by rw [List.append_nil, List.append_nil]⟩
  | cons e es ih =>
    have hone : d.keptAssociations before <+: d.keptAssociations (before ++ [e]) := by
      rw [keptAssociations_append_singleton]
      exact List.prefix_append _ _
    have hsplit : before ++ e :: es = before ++ [e] ++ es := by simp
    rw [hsplit]
    exact hone.trans (ih (before ++ [e]))

/-- An edge that is kept has its association behind those of the edges before it. -/
theorem keptAssociations_eq_append {es : List Edge} {i : Nat} {a : Association}
    (he : es[i]? = some e) (ha : d.kept? (es.take i) e = some a) :
    ∃ after, d.keptAssociations es = d.keptAssociations (es.take i) ++ a :: after := by
  have htake : es.take (i + 1) = es.take i ++ [e] := by
    rw [List.take_add_one, he, Option.toList_some]
  have hkept : d.keptAssociations (es.take (i + 1)) = d.keptAssociations (es.take i) ++ [a] := by
    rw [htake, keptAssociations_append_singleton, ha, Option.toList_some]
  obtain ⟨after, hafter⟩ := d.keptAssociations_prefix (es.take (i + 1)) (es.drop (i + 1))
  rw [List.take_append_drop, hkept] at hafter
  exact ⟨after, by rw [← hafter, List.append_assoc, List.singleton_append]⟩

theorem superclass?_append (d : Description) (before es : List Edge) (name : String) :
    d.superclass? (before ++ es) name =
      (d.superclass? before name).or (d.superclass? es name) := by
  rw [superclass?, extensions, List.filterMap_append, List.filter_append, List.find?_append,
    Option.map_or]
  rfl

theorem superclass?_singleton_of_link?_eq_none (h : d.link? e = none) (name : String) :
    d.superclass? [e] name = none := by
  simp [superclass?, extensions, h]

/-! ## Where the names of class nodes are distinct -/

theorem mem_extensions (h : l ∈ d.extensions before) :
    l.isExtension ∧ ∃ e, d.link? e = some l := by
  obtain ⟨hmem, hext⟩ := List.mem_filter.mp h
  obtain ⟨e, -, he⟩ := List.mem_filterMap.mp hmem
  exact ⟨hext, e, he⟩

theorem classNode?_of_link? (h : d.link? e = some l) :
    l.edge = e ∧ d.classNode? e.start = some l.start ∧ d.classNode? e.stop = some l.stop := by
  obtain ⟨start, hstart, hrest⟩ := Option.bind_eq_some_iff.mp h
  obtain ⟨stop, hstop, rfl⟩ := Option.map_eq_some_iff.mp hrest
  exact ⟨rfl, hstart, hstop⟩

theorem mem_of_classNode? {id : Option Int} {n : Node} (h : d.classNode? id = some n) :
    id = some n.id ∧ n ∈ d.nodes.filter Node.isClass := by
  obtain ⟨id, rfl, hfind⟩ := Option.bind_eq_some_iff.mp h
  obtain ⟨hclass, hid⟩ : n.isClass = true ∧ n.id = id := by simpa using List.find?_some hfind
  exact ⟨by rw [hid], List.mem_filter.mpr ⟨List.mem_of_find?_eq_some hfind, hclass⟩⟩

/-- Nodes of classes that edges lead to have one name only if they have one id. -/
theorem id_eq_iff (hnd : ((d.nodes.filter Node.isClass).map fun n => Text.trim n.name).Nodup)
    {i j : Option Int} {n k : Node} (hn : d.classNode? i = some n) (hk : d.classNode? j = some k) :
    n.id = k.id ↔ Text.trim n.name = Text.trim k.name := by
  obtain ⟨rfl, hnmem⟩ := mem_of_classNode? hn
  obtain ⟨rfl, hkmem⟩ := mem_of_classNode? hk
  constructor
  · intro hid
    rw [hid, hk] at hn
    rw [Option.some.inj hn]
  · intro hname
    rw [List.inj_on_of_nodup_map hnd hnmem hkmem hname]

variable (hnd : ((d.nodes.filter Node.isClass).map fun n => Text.trim n.name).Nodup)

include hnd

/-- A class extends another one after some edges if one of them makes it do so. -/
theorem exists_extension_iff (h : d.link? e = some l) :
    (∃ x ∈ d.extensions before, x.start.id = l.start.id) ↔
      (d.superclass? before l.departure).isSome := by
  obtain ⟨-, hl, -⟩ := classNode?_of_link? h
  rw [superclass?, Option.isSome_map, List.find?_isSome]
  constructor
  · rintro ⟨x, hx, hid⟩
    obtain ⟨-, e', he'⟩ := mem_extensions hx
    obtain ⟨-, hstart, -⟩ := classNode?_of_link? he'
    exact ⟨x, hx, beq_iff_eq.mpr ((id_eq_iff hnd hstart hl).mp hid)⟩
  · rintro ⟨x, hx, hname⟩
    obtain ⟨-, e', he'⟩ := mem_extensions hx
    obtain ⟨-, hstart, -⟩ := classNode?_of_link? he'
    exact ⟨x, hx, (id_eq_iff hnd hstart hl).mpr (beq_iff_eq.mp hname)⟩

/-- An edge is kept unless it is no link, leads from a class to itself, or comes second. -/
theorem kept?_of_link? (h : d.link? e = some l) :
    d.kept? before e =
      if l.kind = .generalization ∧
          (l.departure = l.arrival ∨ (d.superclass? before l.departure).isSome) then none
      else some l.association := by
  obtain ⟨-, hstart, hstop⟩ := classNode?_of_link? h
  have hloop : l.start.id = l.stop.id ↔ l.departure = l.arrival := id_eq_iff hnd hstart hstop
  rw [kept?, h, Option.bind_some]
  simp only [hloop, exists_extension_iff hnd h]

/-- No class extends itself. -/
theorem superclass?_ne {name : String} : d.superclass? before name ≠ some name := by
  intro h
  obtain ⟨l, hfind, harrival⟩ := Option.map_eq_some_iff.mp h
  obtain ⟨hext, e, he⟩ := mem_extensions (List.mem_of_find?_eq_some hfind)
  obtain ⟨-, hstart, hstop⟩ := classNode?_of_link? he
  have hdeparture : l.departure = name := by simpa using List.find?_some hfind
  have hid : l.start.id = l.stop.id :=
    (id_eq_iff hnd hstart hstop).mpr (hdeparture.trans harrival.symm)
  simp [Link.isExtension, hid] at hext

/-- A link on its own makes its departure extend its arrival if it is a generalization between
different classes. -/
theorem superclass?_singleton_of_link? (h : d.link? e = some l) (name : String) :
    d.superclass? [e] name =
      if l.kind = .generalization ∧ l.departure ≠ l.arrival ∧ l.departure = name then
        some l.arrival
      else none := by
  obtain ⟨-, hstart, hstop⟩ := classNode?_of_link? h
  have hloop : l.start.id = l.stop.id ↔ l.departure = l.arrival := id_eq_iff hnd hstart hstop
  have hext : l.isExtension ↔ l.kind = .generalization ∧ l.departure ≠ l.arrival := by
    simp [Link.isExtension, hloop]
  by_cases hl : l.isExtension
  · by_cases hname : l.departure = name
    · rw [if_pos ⟨(hext.mp hl).1, (hext.mp hl).2, hname⟩]
      simp [superclass?, extensions, h, hl, hname]
    · rw [if_neg fun hd => hname hd.2.2]
      simp [superclass?, extensions, h, hl, hname]
  · rw [if_neg fun hd => hl (hext.mpr ⟨hd.1, hd.2.1⟩)]
    simp [superclass?, extensions, h, hl]

/-- An edge that is dropped changes no superclass. -/
theorem superclass?_of_dropped (h : d.kept? before e = none) :
    d.superclass? (before ++ [e]) = d.superclass? before := by
  funext name
  rw [superclass?_append]
  cases hlink : d.link? e with
  | none => rw [superclass?_singleton_of_link?_eq_none hlink, Option.or_none]
  | some l =>
    rw [kept?_of_link? hnd hlink] at h
    have hdropped : l.departure = l.arrival ∨ (d.superclass? before l.departure).isSome := by
      by_contra hnot
      rw [if_neg fun hd => hnot hd.2] at h
      exact absurd h (by simp)
    rw [superclass?_singleton_of_link? hnd hlink]
    by_cases hname : l.departure = name
    · rcases hdropped with hloop | hsecond
      · rw [if_neg fun hd => hd.2.1 hloop, Option.or_none]
      · obtain ⟨s, hs⟩ := Option.isSome_iff_exists.mp (hname ▸ hsecond)
        rw [hs, Option.some_or]
    · rw [if_neg fun hd => hname hd.2.2, Option.or_none]

/-- An edge that is kept gives its departure a superclass if it is a generalization. -/
theorem superclass?_of_kept {a : Association} (h : d.kept? before e = some a) :
    (a.kind = .generalization → d.superclass? before a.departure = none) ∧
    ∀ name, d.superclass? (before ++ [e]) name =
      if a.kind = .generalization ∧ a.departure = name then some a.arrival
      else d.superclass? before name := by
  cases hlink : d.link? e with
  | none =>
    rw [kept?, hlink] at h
    exact absurd h (by simp)
  | some l =>
    rw [kept?_of_link? hnd hlink] at h
    split at h
    · exact absurd h (by simp)
    · next hkept =>
      obtain rfl : l.association = a := Option.some.inj h
      have hfirst : l.kind = .generalization →
          l.departure ≠ l.arrival ∧ d.superclass? before l.departure = none := by
        intro hkind
        rw [not_and, not_or] at hkept
        exact ⟨(hkept hkind).1, Option.not_isSome_iff_eq_none.mp (hkept hkind).2⟩
      refine ⟨fun hkind => (hfirst hkind).2, fun name => ?_⟩
      rw [superclass?_append, superclass?_singleton_of_link? hnd hlink]
      change _ = if l.kind = .generalization ∧ l.departure = name then some l.arrival else _
      by_cases hnew : l.kind = .generalization ∧ l.departure = name
      · obtain ⟨hkind, hname⟩ := hnew
        obtain ⟨hloop, hnone⟩ := hfirst hkind
        rw [if_pos ⟨hkind, hloop, hname⟩, if_pos ⟨hkind, hname⟩, ← hname, hnone, Option.none_or]
      · rw [if_neg hnew, if_neg fun hd => hnew ⟨hd.1, hd.2.2⟩, Option.or_none]

end Description

end Blueprint

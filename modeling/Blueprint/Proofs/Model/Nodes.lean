import Blueprint.Proofs.Model.Reading

/-!
# Which nodes can be read

Nodes are read one after another, and each of them can end the reading. What ends it does not depend
on the order, though: nodes can be read if no two of them share an id, if those of classes can be
read and no two of these share a name, and if nothing of all that is taken already.

The model then gets the classes of the nodes, and each node leaves its own notes.
-/

namespace Blueprint

variable {m : Model} {seen : List Int} {n : Node} {ns : List Node} {ds : List Diagnostic}
  {c : ClassDecl} {f : Failure} {names : List String}

/-- The class that a node becomes, if it is one and can be read. -/
def Node.class? (n : Node) : Option ClassDecl :=
  if n.isClass then n.readClass.2.toOption else none

/-- The notes that a node leaves. -/
def Node.notes (n : Node) : List Diagnostic := if n.isClass then n.readClass.1 else [n.skipped]

/-- New and different values, next to those that are taken. -/
def Fresh {α : Type} (taken xs : List α) : Prop := xs.Nodup ∧ taken.Disjoint xs

/-- The names of the classes that nodes stand for. -/
def classNames (ns : List Node) : List String :=
  (ns.filter Node.isClass).map fun n => Text.trim n.name

/-- Nodes that can be read, after others that had the ids `seen`, into a model that has the classes
`names`. -/
structure Acceptable (names : List String) (seen : List Int) (ns : List Node) : Prop where
  ids_fresh : Fresh seen (ns.map Node.id)
  names_fresh : Fresh names (classNames ns)
  readable : ∀ n ∈ ns, n.isClass → ∃ ds c, n.readClass = (ds, .ok c)

/-! ## One node -/

theorem readNodes_cons_of_seen (hseen : n.id ∈ seen) :
    readNodes m seen (n :: ns) =
      ([], { model := m, failure := some (.duplicateNodeId n.id) }) := by
  rw [readNodes, if_pos hseen]

theorem readNodes_cons_of_passed (hid : n.id ∉ seen) (hclass : n.isClass = false) :
    readNodes m seen (n :: ns) =
      ((readNodes m (n.id :: seen) ns).1,
        (readNodes m (n.id :: seen) ns).2.after [.diagnostic n.skipped]) := by
  rw [readNodes, if_neg hid, if_pos (by simp [hclass])]

theorem readNodes_cons_of_unreadable (hid : n.id ∉ seen) (hclass : n.isClass = true)
    (hread : n.readClass = (ds, .error f)) :
    readNodes m seen (n :: ns) =
      ([], { model := m, journal := .ofDiagnostics ds, failure := some f }) := by
  rw [readNodes, if_neg hid, if_neg (by simp [hclass]), hread]

theorem readNodes_cons_of_taken (hid : n.id ∉ seen) (hclass : n.isClass = true)
    (hread : n.readClass = (ds, .ok c)) (htaken : c.name ∈ m.names) (ns : List Node) :
    ∃ j, Journal.diagnostics j = ds ∧ readNodes m seen (n :: ns) =
      ([], { model := m, journal := j, failure := some (.duplicateClassName c.name) }) := by
  have hadd : m.addClass c = .error (.duplicateClassName c.name) := by
    rw [Model.addClass, if_pos (Model.class?_isSome_iff.mpr htaken)]
  rw [readNodes, if_neg hid, if_neg (by simp [hclass]), hread]
  simp only [hadd]
  exact ⟨_, by simp, rfl⟩

theorem readNodes_cons_of_added (hid : n.id ∉ seen) (hclass : n.isClass = true)
    (hread : n.readClass = (ds, .ok c)) (hnew : c.name ∉ m.names) (ns : List Node) :
    ∃ j, Journal.diagnostics j = ds ∧ readNodes m seen (n :: ns) =
      ((n.id, c.name) ::
          (readNodes { m with classes := m.classes ++ [c] } (n.id :: seen) ns).1,
        (readNodes { m with classes := m.classes ++ [c] } (n.id :: seen) ns).2.after j) := by
  have hadd : m.addClass c = .ok { m with classes := m.classes ++ [c] } :=
    Model.addClass_eq_ok_iff.mpr ⟨hnew, rfl⟩
  rw [readNodes, if_neg hid, if_neg (by simp [hclass]), hread]
  simp only [hadd]
  exact ⟨_, by simp, rfl⟩

/-! ## Acceptable nodes -/

section Fresh

variable {α : Type} {taken xs ys : List α} {x : α}

theorem fresh_cons_iff : Fresh taken (x :: xs) ↔ x ∉ taken ∧ Fresh (x :: taken) xs := by
  simp only [Fresh, List.nodup_cons, List.disjoint_cons_right, List.disjoint_cons_left]
  tauto

theorem fresh_cons_iff_concat : Fresh taken (x :: xs) ↔ x ∉ taken ∧ Fresh (taken ++ [x]) xs := by
  simp only [Fresh, List.nodup_cons, List.disjoint_cons_right, List.disjoint_append_left,
    List.singleton_disjoint]
  tauto

theorem Fresh.perm (h : Fresh taken xs) (hperm : ys.Perm xs) : Fresh taken ys :=
  ⟨hperm.nodup_iff.mpr h.1, fun _ hx hy => h.2 hx (hperm.mem_iff.mp hy)⟩

end Fresh

theorem acceptable_nil : Acceptable names seen [] :=
  ⟨⟨List.nodup_nil, List.disjoint_nil_right _⟩, ⟨List.nodup_nil, List.disjoint_nil_right _⟩,
    fun _ hn => absurd hn List.not_mem_nil⟩

theorem acceptable_cons_of_passed (hclass : n.isClass = false) :
    Acceptable names seen (n :: ns) ↔ n.id ∉ seen ∧ Acceptable names (n.id :: seen) ns := by
  have hnames : classNames (n :: ns) = classNames ns := by simp [classNames, hclass]
  constructor
  · rintro ⟨hids, hnew, hreadable⟩
    obtain ⟨hid, hids⟩ := fresh_cons_iff.mp hids
    exact ⟨hid, hids, hnames ▸ hnew, fun k hk => hreadable k (List.mem_cons_of_mem _ hk)⟩
  · rintro ⟨hid, hids, hnew, hreadable⟩
    refine ⟨fresh_cons_iff.mpr ⟨hid, hids⟩, hnames.symm ▸ hnew, ?_⟩
    intro k hk hkclass
    rcases List.mem_cons.mp hk with rfl | hk
    · exact absurd hkclass (by simp [hclass])
    · exact hreadable k hk hkclass

theorem acceptable_cons_of_class (hclass : n.isClass = true) :
    Acceptable names seen (n :: ns) ↔ n.id ∉ seen ∧ (∃ ds c, n.readClass = (ds, .ok c)) ∧
      Text.trim n.name ∉ names ∧
      Acceptable (names ++ [Text.trim n.name]) (n.id :: seen) ns := by
  have hnames : classNames (n :: ns) = Text.trim n.name :: classNames ns := by
    simp [classNames, hclass]
  constructor
  · rintro ⟨hids, hnew, hreadable⟩
    obtain ⟨hid, hids⟩ := fresh_cons_iff.mp hids
    obtain ⟨hname, hnew⟩ := fresh_cons_iff_concat.mp (hnames ▸ hnew)
    exact ⟨hid, hreadable n List.mem_cons_self hclass, hname, hids, hnew,
      fun k hk => hreadable k (List.mem_cons_of_mem _ hk)⟩
  · rintro ⟨hid, hread, hname, hids, hnew, hreadable⟩
    refine ⟨fresh_cons_iff.mpr ⟨hid, hids⟩,
      hnames.symm ▸ fresh_cons_iff_concat.mpr ⟨hname, hnew⟩, ?_⟩
    intro k hk hkclass
    rcases List.mem_cons.mp hk with rfl | hk
    · exact hread
    · exact hreadable k hk hkclass

/-- The order of nodes does not matter. -/
theorem Acceptable.perm {ns' : List Node} (h : Acceptable names seen ns) (hperm : ns'.Perm ns) :
    Acceptable names seen ns' :=
  ⟨h.ids_fresh.perm (hperm.map _), h.names_fresh.perm ((hperm.filter _).map _),
    fun n hn => h.readable n (hperm.mem_iff.mp hn)⟩

/-! ## All nodes -/

/-- What has to go well for a node of a class that has a new id. -/
theorem readNodes_cons_failure_of_class (hid : n.id ∉ seen) (hclass : n.isClass = true) :
    (readNodes m seen (n :: ns)).2.failure = none ↔
      ∃ ds c, n.readClass = (ds, .ok c) ∧ c.name ∉ m.names ∧
        (readNodes { m with classes := m.classes ++ [c] } (n.id :: seen) ns).2.failure = none := by
  cases hread : n.readClass with
  | mk ds result =>
    cases result with
    | error f =>
      rw [readNodes_cons_of_unreadable hid hclass hread]
      simp
    | ok c =>
      by_cases hnew : c.name ∈ m.names
      · obtain ⟨j, -, heq⟩ := readNodes_cons_of_taken hid hclass hread hnew ns
        rw [heq]
        simp [hnew]
      · obtain ⟨j, -, heq⟩ := readNodes_cons_of_added hid hclass hread hnew ns
        rw [heq]
        simp [hnew, Reading.after]

/-- Nodes are read to their end if and only if they are acceptable. -/
theorem readNodes_failure_eq_none_iff :
    (readNodes m seen ns).2.failure = none ↔ Acceptable m.names seen ns := by
  induction ns generalizing m seen with
  | nil => exact ⟨fun _ => acceptable_nil, fun _ => rfl⟩
  | cons n ns ih =>
    by_cases hid : n.id ∈ seen
    · rw [readNodes_cons_of_seen hid]
      refine ⟨fun h => absurd h (by simp), fun h => ?_⟩
      exact absurd hid (fresh_cons_iff.mp h.ids_fresh).1
    · cases hclass : n.isClass with
      | false =>
        rw [readNodes_cons_of_passed hid hclass, acceptable_cons_of_passed hclass]
        exact ih.trans (and_iff_right hid).symm
      | true =>
        -- adding the class and taking its id is what both sides pass on to the other nodes
        rw [readNodes_cons_failure_of_class hid hclass, acceptable_cons_of_class hclass]
        constructor
        · rintro ⟨ds, c, hread, hnew, hrest⟩
          obtain ⟨hname, -⟩ := Node.readClass_eq_ok hread
          rw [ih, Model.names_append_singleton, hname] at hrest
          exact ⟨hid, ⟨ds, c, hread⟩, hname ▸ hnew, hrest⟩
        · rintro ⟨-, ⟨ds, c, hread⟩, hnew, hrest⟩
          obtain ⟨hname, -⟩ := Node.readClass_eq_ok hread
          refine ⟨ds, c, hread, hname.symm ▸ hnew, ?_⟩
          rw [ih, Model.names_append_singleton, hname]
          exact hrest

/-- Acceptable nodes become the classes that they stand for, and leave their notes. -/
theorem readNodes_of_acceptable (h : Acceptable m.names seen ns) :
    (readNodes m seen ns).2.model = { m with classes := m.classes ++ ns.filterMap Node.class? } ∧
      Journal.diagnostics (readNodes m seen ns).2.journal = ns.flatMap Node.notes := by
  induction ns generalizing m seen with
  | nil => simp [readNodes]
  | cons n ns ih =>
    cases hclass : n.isClass with
    | false =>
      obtain ⟨hid, hrest⟩ := (acceptable_cons_of_passed hclass).mp h
      obtain ⟨hmodel, hnotes⟩ := ih hrest
      have hnone : n.class? = none := by simp [Node.class?, hclass]
      have hskipped : n.notes = [n.skipped] := by simp [Node.notes, hclass]
      rw [readNodes_cons_of_passed hid hclass, Reading.model_after, Reading.journal_after,
        Journal.diagnostics_append, hmodel, hnotes, List.filterMap_cons_none hnone,
        List.flatMap_cons, hskipped]
      exact ⟨rfl, rfl⟩
    | true =>
      obtain ⟨hid, ⟨ds, c, hread⟩, hnew, hrest⟩ := (acceptable_cons_of_class hclass).mp h
      obtain ⟨hname, -⟩ := Node.readClass_eq_ok hread
      rw [← hname] at hnew hrest
      obtain ⟨j, hj, heq⟩ := readNodes_cons_of_added hid hclass hread hnew ns
      rw [← Model.names_append_singleton] at hrest
      obtain ⟨hmodel, hnotes⟩ := ih hrest
      have hsome : n.class? = some c := by simp [Node.class?, hclass, hread, Except.toOption]
      have hown : n.notes = ds := by simp [Node.notes, hclass, hread]
      rw [heq, Reading.model_after, Reading.journal_after, Journal.diagnostics_append, hmodel,
        hnotes, hj, List.filterMap_cons_some hsome, List.flatMap_cons, hown]
      simp

end Blueprint

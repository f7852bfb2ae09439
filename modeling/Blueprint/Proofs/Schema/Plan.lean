import Blueprint.Proofs.Schema.Design
import Mathlib.Data.List.Count

/-!
# Which statement makes a table

A table is created where its name comes up first: ahead of its class, by another one that refers to
it, or by its own class together with its columns. A class that comes later adds to what it finds.
So it can be told from the order of the classes and from their associations which statements there
are, without any account of the tables in being: the account only says which names have come up.
-/

namespace Blueprint.Schema

/-- The associations of a class that have a foreign key. -/
def keyed (m : Model) (c : ClassDecl) : List Association :=
  (m.departing c.name).filter (·.kind != .other)

/-- Whether one of some classes refers to the table of another class. -/
def referredBy (m : Model) (cs : List ClassDecl) (name : String) : Bool :=
  cs.any fun c => c.name != name && (keyed m c).any (·.arrival == name)

/-- The tables that a class makes ahead, after the classes `earlier`: those that it refers to and
that did not come up before, each once, in the order in which it refers to them. -/
def aheadOf (m : Model) (earlier : List ClassDecl) (c : ClassDecl) : List String :=
  ((keyed m c).map Association.arrival).eraseDups.filter fun name =>
    name ≠ c.name ∧ name ∉ earlier.map ClassDecl.name ∧ !referredBy m earlier name

/-- Whether a class has anything to add to its table but the primary key. -/
def hasColumns (m : Model) (c : ClassDecl) : Bool :=
  c.attributes.any (fun a => (ColumnType.ofAttributeType? a.type).isSome) || !(keyed m c).isEmpty

/-- The statement of a class for its own table, after the classes `earlier`. It creates the table if
none of these refers to it, and otherwise adds to it what there is to add. -/
def ownPlanned (m : Model) (earlier : List ClassDecl) (c : ClassDecl) : List Statement :=
  let own (kind : StatementKind) : Statement :=
    { kind, table := c.name, columns := (design m c).columns, keys := (design m c).keys }
  if !referredBy m earlier c.name then [own .create]
  else if hasColumns m c then [own .alter]
  else []

/-- The statements of a class, after the classes `earlier`: those that make tables ahead, with
nothing but the primary key, and that for its own table. -/
def planned (m : Model) (earlier : List ClassDecl) (c : ClassDecl) : List Statement :=
  (aheadOf m earlier c).map (fun name => { kind := .create, table := name }) ++
    ownPlanned m earlier c

variable {m : Model} {ts : Tables} {cat : Catalog} {earlier : List ClassDecl} {c : ClassDecl}
  {table column name : String}

/-! ## Which tables are there -/

/-- To ask for a table that is there asks for nothing new. -/
theorem isCreated_or_eq_iff (h : ts.isCreated table) :
    ts.isCreated name ∨ name = table ↔ ts.isCreated name :=
  or_iff_left_of_imp fun e => e ▸ h

theorem isCreated_addColumn :
    (ts.addColumn table column).isCreated name ↔ ts.isCreated name ∨ name = table := by
  have hnames : (ts.addColumn table column).map Table.name = (ts.create table).map Table.name := by
    rw [Tables.addColumn, List.map_map]
    refine List.map_congr_left fun t _ => ?_
    simp only [Function.comp_apply]
    split <;> rfl
  rw [Tables.isCreated_iff, hnames, Tables.isCreated_iff, Tables.create]
  by_cases h : ts.isCreated table
  · rw [if_pos h, ← Tables.isCreated_iff, isCreated_or_eq_iff h]
  · rw [if_neg h, List.map_append, List.mem_append, List.map_singleton, List.mem_singleton]

theorem isCreated_createTable :
    (createTable ts table).isCreated name ↔ ts.isCreated name ∨ name = table := isCreated_addColumn

theorem isCreated_ensureTable :
    (ensureTable ts table).isCreated name ↔ ts.isCreated name ∨ name = table := by
  rw [ensureTable]
  by_cases h : ts.isCreated table
  · rw [if_pos h, isCreated_or_eq_iff h]
  · rw [if_neg h]
    exact isCreated_createTable

/-- Columns of a table that is there make no other table. -/
theorem isCreated_addColumns (names : List String) (h : ts.isCreated table) :
    (ts.addColumns table names).isCreated name ↔ ts.isCreated name := by
  induction names generalizing ts with
  | nil => rfl
  | cons n names ih =>
    have hfirst : ∀ {name}, (ts.addColumn table n).isCreated name ↔ ts.isCreated name := by
      intro name
      rw [isCreated_addColumn, isCreated_or_eq_iff h]
    have hfold : ts.addColumns table (n :: names) = (ts.addColumn table n).addColumns table names :=
      rfl
    rw [hfold, ih (hfirst.mpr h), hfirst]

theorem isCreated_ownTable (c : ClassDecl) (references : List Reference) :
    (ownTable c references ts).tables.isCreated name ↔ ts.isCreated name ∨ name = c.name := by
  have hthere : (ensureTable ts c.name).isCreated c.name := isCreated_ensureTable.mpr (Or.inr rfl)
  rcases ownTable_cases c references ts with ⟨-, -, htables, -⟩ | ⟨-, htables, -⟩
  · rw [htables]
    exact isCreated_ensureTable
  · rw [htables, isCreated_addColumns _ hthere]
    exact isCreated_ensureTable

/-! ## Tables ahead of a class -/

/-- What is left out of a list is left out of its first occurrences. -/
theorem eraseDups_filter (p : String → Bool) (xs : List String) :
    (xs.filter p).eraseDups = xs.eraseDups.filter p := by
  match xs with
  | [] => rfl
  | x :: xs =>
    -- the other names are a shorter list
    have ih := eraseDups_filter p (xs.filter (!· == x))
    by_cases hx : p x
    · rw [List.filter_cons_of_pos hx, List.eraseDups_cons, List.eraseDups_cons,
        List.filter_cons_of_pos hx, ← ih, List.filter_filter, List.filter_filter]
      simp only [Bool.and_comm]
    · have hsame : (xs.filter (!· == x)).filter p = xs.filter p := by
        rw [List.filter_filter]
        refine List.filter_congr fun y _ => ?_
        by_cases hy : y = x
        · simp [hy, hx]
        · simp [hy]
      rw [List.filter_cons_of_neg hx, List.eraseDups_cons, List.filter_cons_of_neg hx, ← ih, hsame]
termination_by xs.length
decreasing_by exact Nat.lt_succ_of_le (List.length_filter_le _ _)

/-- The names among some that are neither that of a table itself nor of one that is there, each
once. -/
def missing (table : String) (ts : Tables) (names : List String) : List String :=
  names.eraseDups.filter fun name => name ≠ table ∧ !ts.isCreated name

theorem missing_cons (table : String) (ts : Tables) (name : String) (names : List String) :
    missing table ts (name :: names) =
      (if name ≠ table ∧ !ts.isCreated name then [name] else []) ++
        (missing table ts names).filter (· != name) := by
  rw [missing, List.eraseDups_cons, eraseDups_filter, List.filter_cons, missing, List.filter_filter,
    List.filter_filter]
  simp only [decide_eq_true_eq, bne, Bool.and_comm]
  split <;> rfl

/-- A missing table is made, and then it is there. -/
theorem missing_cons_of_missing {names : List String} (h : name ≠ table ∧ !ts.isCreated name) :
    missing table ts (name :: names) = name :: missing table (createTable ts name) names := by
  rw [missing_cons, if_pos h, List.singleton_append, missing, missing, List.filter_filter]
  congr 1
  refine List.filter_congr fun n _ => ?_
  by_cases hn : n = name
  · have hthere : (createTable ts name).isCreated name := isCreated_createTable.mpr (Or.inr rfl)
    simp [hthere, hn]
  · have hsame : (createTable ts name).isCreated n = ts.isCreated n := by
      rw [Bool.eq_iff_iff, isCreated_createTable, or_iff_left hn]
    rw [hsame, bne_iff_ne.mpr hn, Bool.true_and]

theorem missing_cons_of_not_missing {names : List String}
    (h : ¬(name ≠ table ∧ !ts.isCreated name)) :
    missing table ts (name :: names) = missing table ts names := by
  rw [missing_cons, if_neg h, List.nil_append, List.filter_eq_self]
  intro n hn
  refine bne_iff_ne.mpr ?_
  rintro rfl
  exact h (of_decide_eq_true (List.mem_filter.mp hn).2)

/-- The tables that associations make are the missing ones among those that they lead to. -/
theorem createArrivals_planned (table : String) (ts : Tables) (as : List Association) :
    let new := missing table ts ((as.filter (·.kind != .other)).map Association.arrival)
    (createArrivals table ts as).statements =
        new.map (fun name => { kind := .create, table := name }) ∧
      ∀ name, (createArrivals table ts as).tables.isCreated name ↔
        ts.isCreated name ∨ name ∈ new := by
  induction as generalizing ts with
  | nil => simp [createArrivals, missing]
  | cons a as ih =>
    intro new
    by_cases hkind : a.kind = .other
    · have hnone : reference? a = none := by simp [reference?, OnDelete.ofKind?, hkind]
      have hnew : new =
          missing table ts ((as.filter (·.kind != .other)).map Association.arrival) := by
        simp [new, hkind]
      rw [createArrivals, hnone, hnew]
      exact ih ts
    · obtain ⟨r, hr⟩ : ∃ r, reference? a = some r := by
        cases h : a.kind <;> simp_all [reference?, OnDelete.ofKind?]
      have hnew : new = missing table ts
          (a.arrival :: (as.filter (·.kind != .other)).map Association.arrival) := by
        simp [new, hkind]
      rw [createArrivals, hr]
      dsimp only
      by_cases hmissing : a.arrival ≠ table ∧ !ts.isCreated a.arrival
      · obtain ⟨hstatements, htables⟩ := ih (createTable ts a.arrival)
        rw [if_pos hmissing, hnew, missing_cons_of_missing hmissing]
        refine ⟨?_, fun name => ?_⟩
        · rw [Script.statements_after, hstatements]
          rfl
        · rw [List.mem_cons, ← or_assoc, ← isCreated_createTable]
          exact htables name
      · rw [if_neg hmissing, hnew, missing_cons_of_not_missing hmissing]
        exact ih ts

/-! ## One class after others -/

/-- The tables after the classes `earlier`: what these asked for is built, and those names have come
up that they have or refer to. -/
structure After (m : Model) (earlier : List ClassDecl) (ts : Tables) (cat : Catalog) : Prop where
  /-- The account is that of a catalog. -/
  mirrors : Mirrors ts cat
  /-- The catalog is built so far. -/
  designed : Designed m earlier cat
  /-- The names that have come up. -/
  isCreated_iff : ∀ name, ts.isCreated name ↔
    name ∈ earlier.map ClassDecl.name ∨ referredBy m earlier name

theorem after_nil : After m [] [] [] :=
  ⟨mirrors_nil, designed_nil, fun _ => by simp [referredBy, Tables.isCreated, Tables.columns?]⟩

theorem referredBy_append_singleton : referredBy m (earlier ++ [c]) name ↔
    referredBy m earlier name ∨ (name ≠ c.name ∧ name ∈ (keyed m c).map Association.arrival) := by
  simp [referredBy, List.any_append, ne_comm]

/-- The tables to be made ahead are the missing ones. -/
theorem After.aheadOf_eq (h : After m earlier ts cat) (c : ClassDecl) :
    aheadOf m earlier c = missing c.name ts ((keyed m c).map Association.arrival) := by
  refine List.filter_congr fun name _ => decide_eq_decide.mpr (and_congr_right fun _ => ?_)
  rw [Bool.not_eq_true', Bool.not_eq_true', ← Bool.not_eq_true, ← Bool.not_eq_true, h.isCreated_iff,
    not_or]

theorem wantedReference?_eq_none_iff {a : Association} :
    wantedReference? a = none ↔ a.kind = .other := by
  cases h : a.kind <;> simp [wantedReference?, h]

/-- A class has columns where there is something for its design to ask for. -/
theorem columns_design_eq_nil_iff : (design m c).columns = [] ↔ ¬hasColumns m c := by
  have hlength : (design m c).columns = [] ↔
      wantedColumns c ((m.departing c.name).filterMap wantedReference?) = [] := by
    rw [← List.length_eq_zero_iff, ← List.length_eq_zero_iff]
    exact iff_of_eq (congrArg (· = 0) length_ownColumns)
  have hattributes : c.attributes.filterMap wantedColumn? = [] ↔
      ¬c.attributes.any fun a => (ColumnType.ofAttributeType? a.type).isSome := by
    simp [wantedColumn?_eq]
  have hkeys : (m.departing c.name).filterMap wantedReference? = [] ↔ keyed m c = [] := by
    simp [keyed, wantedReference?_eq_none_iff]
  rw [hlength, wantedColumns, List.append_eq_nil_iff, List.map_eq_nil_iff, hattributes, hkeys,
    hasColumns, Bool.or_eq_true, not_or, Bool.not_eq_true', List.isEmpty_eq_false_iff, not_not]

theorem mem_aheadOf : name ∈ aheadOf m earlier c ↔
    name ∈ (keyed m c).map Association.arrival ∧ name ≠ c.name ∧
      name ∉ earlier.map ClassDecl.name ∧ ¬referredBy m earlier name := by
  rw [aheadOf, List.mem_filter, List.mem_eraseDups, decide_eq_true_iff, Bool.not_eq_true',
    Bool.not_eq_true]

/-- A class that finds its table bare, or does not find it, adds what its design asks for. -/
theorem statements_ownTable (hthere : ts.isCreated c.name ↔ referredBy m earlier c.name)
    (hbare : (ensureTable ts c.name).columns c.name = [primaryKey]) :
    (ownTable c ((m.departing c.name).filterMap reference?) ts).statements =
      ownPlanned m earlier c := by
  have hown := ownTable_cases c ((m.departing c.name).filterMap reference?) ts
  dsimp only at hown
  rw [hbare, reference?_eq_wantedReference?] at hown
  rw [reference?_eq_wantedReference?, ownPlanned]
  rcases hown with ⟨hcreated, hnone, -, hstatements⟩ | ⟨hsome, -, hstatements⟩
  · rw [hstatements, if_neg (by simpa using hthere.mp hcreated),
      if_neg (columns_design_eq_nil_iff.mp hnone)]
  · rw [hstatements]
    by_cases hreferred : referredBy m earlier c.name
    · have hcolumns : hasColumns m c := by
        by_contra hno
        exact hsome ⟨hthere.mpr hreferred, columns_design_eq_nil_iff.mpr hno⟩
      rw [hthere.mpr hreferred, if_neg (by simpa using hreferred), if_pos hcolumns]
      rfl
    · have hmissing : ts.isCreated c.name = false :=
        Bool.eq_false_iff.mpr fun hc => hreferred (hthere.mp hc)
      rw [hmissing, if_pos (by simpa using hreferred)]
      rfl

/-- The statements of a class, and what has come up after it. -/
theorem After.scriptOfClass (h : After m earlier ts cat) (hm : m.WellFormed) (hc : c ∈ m.classes)
    (hnew : c.name ∉ earlier.map ClassDecl.name) :
    (scriptOfClass m ts c).statements = planned m earlier c ∧
      ∃ cat', After m (earlier ++ [c]) (Schema.scriptOfClass m ts c).tables cat' := by
  obtain ⟨hahead, hcreated⟩ := createArrivals_planned c.name ts (m.departing c.name)
  rw [show (m.departing c.name).filter (·.kind != .other) = keyed m c from rfl, ← h.aheadOf_eq]
    at hahead hcreated
  set arrivals := createArrivals c.name ts (m.departing c.name)
  constructor
  · have hthere : arrivals.tables.isCreated c.name ↔ referredBy m earlier c.name := by
      rw [hcreated, h.isCreated_iff, or_assoc, or_iff_right hnew]
      exact or_iff_left fun hmem => (mem_aheadOf.mp hmem).2.1 rfl
    have hbare : (ensureTable arrivals.tables c.name).columns c.name = [primaryKey] := by
      obtain ⟨news, -, hmade, hnews⟩ :=
        createArrivals_executes h.mirrors c.name (m.departing c.name)
      rw [columns_ensureTable hmade, hnews.tableOrBare_eq, h.designed.tableOrBare_eq hnew]
      rfl
    rw [Schema.scriptOfClass, Script.statements_after, hahead, statements_ownTable hthere hbare,
      planned]
  · obtain ⟨cat', -, hmirrors, hdesigned⟩ := h.designed.scriptOfClass h.mirrors hm hc hnew
    refine ⟨cat', hmirrors, hdesigned, fun name => ?_⟩
    have htables : (Schema.scriptOfClass m ts c).tables.isCreated name ↔
        arrivals.tables.isCreated name ∨ name = c.name := isCreated_ownTable c _
    rw [htables, hcreated, h.isCreated_iff, mem_aheadOf, referredBy_append_singleton,
      List.map_append, List.mem_append, List.map_singleton, List.mem_singleton]
    tauto

/-! ## All classes -/

/-- The classes of a list, each with those before it. -/
theorem After.scriptOfClasses (h : After m earlier ts cat) (hm : m.WellFormed)
    {cs : List ClassDecl} (hsub : cs ⊆ m.classes)
    (hnd : ((earlier ++ cs).map ClassDecl.name).Nodup) :
    (scriptOfClasses m ts cs).statements =
      (cs.zipIdx earlier.length).flatMap fun p => planned m ((earlier ++ cs).take p.2) p.1 := by
  induction cs generalizing ts cat earlier with
  | nil => rfl
  | cons c cs ih =>
    have hsplit : earlier ++ c :: cs = earlier ++ [c] ++ cs := by simp
    have hnew := name_not_mem_of_nodup hnd
    obtain ⟨hown, cat', hafter⟩ := h.scriptOfClass hm (hsub List.mem_cons_self) hnew
    have hrest := ih hafter (fun d hd => hsub (List.mem_cons_of_mem _ hd)) (hsplit ▸ hnd)
    rw [statements_scriptOfClasses_cons, hown, hrest, List.zipIdx_cons, List.flatMap_cons,
      List.take_left, ← hsplit, List.length_append, List.length_singleton]

/-- Adding to a table is for the class whose table it is. -/
theorem tablesOf_alter_planned (m : Model) (earlier : List ClassDecl) (c : ClassDecl) :
    (tablesOf .alter (planned m earlier c)).Sublist [c.name] := by
  have hahead : tablesOf .alter ((aheadOf m earlier c).map
      fun name => { kind := .create, table := name }) = [] := by simp [tablesOf]
  have happend : tablesOf .alter (planned m earlier c) =
      tablesOf .alter (ownPlanned m earlier c) := by
    rw [planned, tablesOf, List.filter_append, List.map_append, ← tablesOf, hahead, List.nil_append,
      tablesOf]
  rw [happend, ownPlanned]
  dsimp only
  split
  · exact List.nil_sublist _
  · split
    · exact List.Sublist.refl _
    · exact List.nil_sublist _

theorem tablesOf_flatMap {α : Type} (kind : StatementKind) (f : α → List Statement) (xs : List α) :
    tablesOf kind (xs.flatMap f) = xs.flatMap fun x => tablesOf kind (f x) := by
  rw [tablesOf, List.filter_flatMap, List.map_flatMap]
  rfl

/-- A list for each element, with at most its name. -/
theorem sublist_flatMap_zipIdx {f : ClassDecl × Nat → List String}
    (h : ∀ p, (f p).Sublist [p.1.name]) (cs : List ClassDecl) (n : Nat) :
    ((cs.zipIdx n).flatMap f).Sublist (cs.map ClassDecl.name) := by
  induction cs generalizing n with
  | nil => exact List.Sublist.refl _
  | cons c cs ih =>
    rw [List.zipIdx_cons, List.flatMap_cons, List.map_cons, ← List.singleton_append]
    exact (h (c, n)).append (ih (n + 1))

/-- The script of a well-formed model has for every class, in their order, a statement for each
table that the class refers to and whose name did not come up before, and then one for its own
table: it creates the table if no other class referred to it before, and otherwise adds to it if
there is anything to add. So a table is created once for every class, starting with its primary key,
and at most one statement adds to it. -/
theorem statements_script (hm : m.WellFormed) :
    (script m []).statements =
        m.classes.zipIdx.flatMap (fun p => planned m (m.classes.take p.2) p.1) ∧
      (∀ s ∈ (script m []).statements, s.kind = .create →
        s.entries.head? = some "ID NUMBER PRIMARY KEY") ∧
      (tablesOf .create (script m []).statements).Perm m.names ∧
      (script m []).statements.countP (·.kind = .create) = m.classes.length ∧
      ∀ c ∈ m.classes, (script m []).statements.countP
        (fun s => s.kind = .alter ∧ s.table = c.name) ≤ 1 := by
  have hplan : (script m []).statements =
      m.classes.zipIdx.flatMap fun p => planned m (m.classes.take p.2) p.1 :=
    after_nil.scriptOfClasses hm (List.Subset.refl _) hm.names_nodup
  have hcreates : (tablesOf .create (script m []).statements).Perm m.names := by
    obtain ⟨cat, hrun, -, hperm⟩ := script_designed hm
    have hnames := hperm.map StoredTable.name
    rw [show cat.map StoredTable.name = cat.names from rfl, Catalog.names_execute? hrun,
      List.map_map] at hnames
    exact hnames
  refine ⟨hplan, ?_, hcreates, ?_, ?_⟩
  · intro s _ hkind
    rw [Statement.entries, if_pos hkind]
    rfl
  · have hlength := hcreates.length_eq
    rwa [tablesOf, List.length_map, ← List.countP_eq_length_filter, Model.names, List.length_map]
      at hlength
  · intro c hc
    have halters : (tablesOf .alter (script m []).statements).Sublist m.names := by
      rw [hplan, tablesOf_flatMap]
      exact sublist_flatMap_zipIdx (fun p => tablesOf_alter_planned m _ p.1) m.classes 0
    have hcount := (List.nodup_iff_count_le_one.mp (hm.names_nodup.sublist halters)) c.name
    rw [tablesOf, List.count_eq_countP, List.countP_map, List.countP_filter] at hcount
    refine Nat.le_trans (List.countP_mono_left fun s _ hs => ?_) hcount
    simpa [and_comm] using hs

/-- A depot in which everything leads back: a crate may hold a crate, goes into a van twice, and is
kept on a shelf, which is for crates. What a label is on is of no concern to the tables, and a tag
is a label with nothing of its own. -/
def depot : Model where
  classes := [
    { name := "Crate", attributes := [⟨"weight", "double", .priv⟩] },
    { name := "Shelf" },
    { name := "Tag" },
    { name := "Van", attributes := [⟨"driver", "Person", .priv⟩] },
    { name := "Label", attributes := [⟨"text", "String", .priv⟩] }]
  associations := [
    { kind := .composition, departure := "Crate", arrival := "Crate" },
    { kind := .aggregation, departure := "Crate", arrival := "Van" },
    { kind := .other, departure := "Crate", arrival := "Label" },
    { kind := .composition, departure := "Shelf", arrival := "Crate" },
    { kind := .aggregation, departure := "Crate", arrival := "Shelf" },
    { kind := .aggregation, departure := "Crate", arrival := "Van" },
    { kind := .generalization, departure := "Tag", arrival := "Label" }]

/-- The crate makes two tables ahead, the tag makes one, and the van adds nothing to its own. -/
theorem statements_script_depot :
    depot.WellFormed ∧
      ((script depot []).statements.map fun s => (s.kind, s.table)) =
        [(.create, "Van"), (.create, "Shelf"), (.create, "Crate"), (.alter, "Shelf"),
          (.create, "Label"), (.create, "Tag"), (.alter, "Label")] ∧
      (script depot []).statements.countP (·.kind = .create) = 5 := by
  have h : depot.WellFormed := ⟨by decide, by decide, by decide⟩
  obtain ⟨hplan, -, -, hcreates, -⟩ := statements_script h
  exact ⟨h, by rw [hplan]; decide +kernel, hcreates⟩

end Blueprint.Schema

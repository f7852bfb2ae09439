import Blueprint.Proofs.Model.Integrity
import Blueprint.Proofs.Schema.Execution

/-!
# What a schema builds

Where the column of a class is added depends on the classes before it: in the statement that creates
the table, or in a later one if an association led there first. What stands in the table in the end
does not. Until its class comes, a table is bare, and after that it is never touched again; so each
class finds its table with nothing but the primary key, and the order of the classes does not show.
-/

namespace Blueprint.Schema

/-- The table that a class asks for: the primary key, a column for every attribute whose type has
one, and a column with a foreign key for every association that leaves the class and whose kind has
one. -/
def design (m : Model) (c : ClassDecl) : StoredTable :=
  let references := (m.departing c.name).filterMap wantedReference?
  { name := c.name
    primary := { name := primaryKey, type := .number }
    columns := ownColumns [primaryKey] c references
    keys := ownKeys [primaryKey] c references }

/-- A catalog in the middle of a script: the classes `built` have the tables they ask for, and there
are no other tables than bare ones of classes to come. -/
structure Designed (m : Model) (built : List ClassDecl) (cat : Catalog) : Prop where
  /-- What a class of `built` asks for is there. -/
  table?_eq : ∀ c ∈ built, cat.table? c.name = some (design m c)
  /-- All other tables are bare. -/
  eq_bare : ∀ name t, cat.table? name = some t → name ∉ built.map ClassDecl.name →
    t = bareTable name
  /-- Each table is that of a class. -/
  names_subset : cat.names ⊆ m.names

variable {m m' : Model} {ts : Tables} {cat : Catalog} {built : List ClassDecl} {c : ClassDecl}

/-- The design of a class depends on the associations alone. -/
theorem design_congr (h : m'.associations = m.associations) : design m' = design m := by
  funext c
  rw [design, design, Model.departing, Model.departing, h]

/-- The columns of a table that a class asks for have different names. -/
theorem nodup_columnNames_design (m : Model) (c : ClassDecl) : (design m c).columnNames.Nodup := by
  rw [StoredTable.columnNames, List.nodup_cons]
  have hnames : (design m c).columns.map Column.name = columnNames [primaryKey] c
      ((m.departing c.name).filterMap wantedReference?) := map_name_ownColumns
  rw [hnames]
  refine ⟨fun hmem => ?_, nodup_columnNames⟩
  exact not_mem_of_mem_columnNames hmem (List.mem_singleton_self primaryKey)

theorem designed_nil : Designed m [] [] :=
  ⟨fun _ hc => absurd hc List.not_mem_nil, fun _ _ ht => absurd ht (by simp [Catalog.table?]),
    List.nil_subset _⟩

/-- A class that is not built yet finds its table bare. -/
theorem Designed.tableOrBare_eq (h : Designed m built cat)
    (hnew : c.name ∉ built.map ClassDecl.name) : cat.tableOrBare c.name = bareTable c.name := by
  cases ht : cat.table? c.name with
  | none => rw [Catalog.tableOrBare, ht, Option.getD_none]
  | some t => rw [Catalog.tableOrBare, ht, Option.getD_some, h.eq_bare c.name t ht hnew]

/-- The part of a class builds what the class asks for, and nothing that others ask for is lost. -/
theorem Designed.scriptOfClass (h : Designed m built cat) (hts : Mirrors ts cat)
    (hm : m.WellFormed) (hc : c ∈ m.classes) (hnew : c.name ∉ built.map ClassDecl.name) :
    ∃ cat', cat.execute? (scriptOfClass m ts c).statements = some cat' ∧
      Mirrors (Schema.scriptOfClass m ts c).tables cat' ∧ Designed m (built ++ [c]) cat' := by
  obtain ⟨cat', hrun, hmirrors, hown, hkept, hmade⟩ := scriptOfClass_executes hts m c
  rw [h.tableOrBare_eq hnew, reference?_eq_wantedReference?] at hown
  have hdesign : cat'.table? c.name = some (design m c) := by
    rw [hown]
    rfl
  refine ⟨cat', hrun, hmirrors, ?_, ?_, ?_⟩
  · intro d hd
    rcases List.mem_append.mp hd with hd | hd
    · have hne : d.name ≠ c.name := fun e => hnew (e ▸ List.mem_map_of_mem hd)
      exact hkept d.name _ hne (h.table?_eq d hd)
    · rw [List.mem_singleton.mp hd]
      exact hdesign
  · intro name t ht hname
    rw [List.map_append, List.mem_append, not_or] at hname
    have hne : name ≠ c.name := fun e => hname.2 (by simp [e])
    rcases hmade name t hne ht with hold | ⟨hbare, -⟩
    · exact h.eq_bare name t hold hname.1
    · exact hbare
  · intro name hname
    by_cases hne : name = c.name
    · exact hne ▸ List.mem_map_of_mem hc
    · obtain ⟨t, ht⟩ := Option.isSome_iff_exists.mp (Catalog.table?_isSome_iff.mpr hname)
      rcases hmade name t hne ht with hold | ⟨-, a, ha, harrival⟩
      · exact h.names_subset (Catalog.table?_isSome_iff.mp (by rw [hold]; rfl))
      · exact harrival ▸ hm.arrival_mem a (List.mem_of_mem_filter ha)

/-- A class to come has another name than those that are built. -/
theorem name_not_mem_of_nodup {cs : List ClassDecl}
    (hnd : ((built ++ c :: cs).map ClassDecl.name).Nodup) : c.name ∉ built.map ClassDecl.name := by
  rw [List.map_append, List.nodup_append] at hnd
  exact fun hmem => hnd.2.2 c.name hmem c.name List.mem_cons_self rfl

/-- The parts of classes build what all of the classes ask for. -/
theorem Designed.scriptOfClasses (h : Designed m built cat) (hts : Mirrors ts cat)
    (hm : m.WellFormed) {cs : List ClassDecl} (hsub : cs ⊆ m.classes)
    (hnd : ((built ++ cs).map ClassDecl.name).Nodup) :
    ∃ cat', cat.execute? (scriptOfClasses m ts cs).statements = some cat' ∧
      Mirrors (Schema.scriptOfClasses m ts cs).tables cat' ∧ Designed m (built ++ cs) cat' := by
  induction cs generalizing ts cat built with
  | nil => exact ⟨cat, rfl, hts, by rw [List.append_nil]; exact h⟩
  | cons c cs ih =>
    have hsplit : built ++ c :: cs = built ++ [c] ++ cs := by simp
    have hnew := name_not_mem_of_nodup hnd
    obtain ⟨cat₁, hrun₁, hmirrors₁, hdesigned₁⟩ :=
      h.scriptOfClass hts hm (hsub List.mem_cons_self) hnew
    obtain ⟨cat₂, hrun₂, hmirrors₂, hdesigned₂⟩ :=
      ih hdesigned₁ hmirrors₁ (fun d hd => hsub (List.mem_cons_of_mem _ hd)) (hsplit ▸ hnd)
    refine ⟨cat₂, ?_, hmirrors₂, hsplit ▸ hdesigned₂⟩
    rw [statements_scriptOfClasses_cons, Catalog.execute?_append hrun₁, hrun₂]

/-- Where all classes are built, the catalog holds what they ask for and nothing else. -/
theorem Designed.perm (h : Designed m m.classes cat) (hts : Mirrors ts cat) (hm : m.WellFormed) :
    cat.Perm (m.classes.map (design m)) := by
  have hnames : (m.classes.map (design m)).map StoredTable.name = m.names := by
    rw [List.map_map]
    rfl
  have hnd : (m.classes.map (design m)).Nodup :=
    List.Nodup.of_map StoredTable.name (hnames ▸ hm.names_nodup)
  refine (List.perm_ext_iff_of_nodup (List.Nodup.of_map _ hts.names_nodup) hnd).mpr ?_
  intro t
  constructor
  · intro ht
    obtain ⟨c, hc, hname⟩ := List.mem_map.mp (h.names_subset (List.mem_map_of_mem ht))
    have hfound := h.table?_eq c hc
    rw [hname, Catalog.table?_of_mem hts.names_nodup ht] at hfound
    exact List.mem_map.mpr ⟨c, hc, (Option.some.inj hfound).symm⟩
  · intro ht
    obtain ⟨c, hc, rfl⟩ := List.mem_map.mp ht
    exact (Catalog.mem_of_table? (h.table?_eq c hc)).1

/-- The script of a well-formed model builds the tables that its classes ask for. -/
theorem script_designed (hm : m.WellFormed) :
    ∃ cat, Catalog.execute? [] (script m []).statements = some cat ∧
      Designed m m.classes cat ∧ cat.Perm (m.classes.map (design m)) := by
  obtain ⟨cat, hrun, hmirrors, hdesigned⟩ :=
    designed_nil.scriptOfClasses mirrors_nil hm (List.Subset.refl _) hm.names_nodup
  exact ⟨cat, hrun, hdesigned, hdesigned.perm hmirrors hm⟩

/-- The script of a model that was built by its operations builds one table for every class, the one
that the class asks for. Taking the classes in another order builds the same tables. -/
theorem execute?_script_perm (h : m.Built) :
    ∃ cat, Catalog.execute? [] (script m []).statements = some cat ∧
      cat.Perm (m.classes.map (design m)) ∧
      (∀ c ∈ m.classes, cat.table? c.name = some (design m c)) ∧
      ∀ m' : Model, m'.classes.Perm m.classes → m'.associations = m.associations →
        ∃ cat', Catalog.execute? [] (script m' []).statements = some cat' ∧ cat'.Perm cat := by
  have hm := h.wellFormed
  obtain ⟨cat, hrun, hdesigned, hperm⟩ := script_designed hm
  refine ⟨cat, hrun, hperm, hdesigned.table?_eq, ?_⟩
  -- the names are the same and so is what each class asks for
  intro m' hclasses hassociations
  have hnames : m'.names.Perm m.names := hclasses.map ClassDecl.name
  have hm' : m'.WellFormed := by
    refine ⟨hnames.nodup_iff.mpr hm.names_nodup, ?_, ?_⟩
    · intro a ha
      exact hnames.mem_iff.mpr (hm.departure_mem a (hassociations ▸ ha))
    · intro a ha
      exact hnames.mem_iff.mpr (hm.arrival_mem a (hassociations ▸ ha))
  obtain ⟨cat', hrun', -, hperm'⟩ := script_designed hm'
  rw [design_congr hassociations] at hperm'
  exact ⟨cat', hrun', hperm'.trans ((hclasses.map (design m)).trans hperm.symm)⟩

/-- A shop: orders own their items, an item knows its order, and a gift is an item. An attribute of
orders has the name that a foreign key wants, and another one has no column. -/
def shop : Model where
  classes := [
    { name := "Order", attributes := [⟨"id_Item", "int", .priv⟩, ⟨"due", "Date", .priv⟩] },
    { name := "Gift" },
    { name := "Item", attributes := [⟨"ID", "String", .priv⟩] }]
  associations := [
    { kind := .composition, departure := "Order", arrival := "Item" },
    { kind := .aggregation, departure := "Item", arrival := "Order" },
    { kind := .generalization, departure := "Gift", arrival := "Item" }]

/-- The script of the shop builds these tables, and so does the one with the classes taken the other
way round. The foreign key of orders is on a column that is numbered, as an attribute has the name, and
the attribute of items gives way to the primary key. -/
theorem execute?_script_perm_shop :
    shop.Built ∧ ∃ cat cat',
      Catalog.execute? [] (script shop []).statements = some cat ∧
      Catalog.execute? [] (script { shop with classes := shop.classes.reverse } []).statements =
        some cat' ∧
      cat.Perm (shop.classes.map (design shop)) ∧ cat'.Perm cat ∧
      cat.table? "Order" = some
        { name := "Order", primary := ⟨"ID", .number⟩
          columns := [⟨"id_Item", .number⟩, ⟨"id_Item_2", .number⟩]
          keys := [⟨"id_Item_2", "Item", .cascade⟩] } ∧
      cat.table? "Gift" = some
        { name := "Gift", primary := ⟨"ID", .number⟩, columns := [⟨"id_Item", .number⟩]
          keys := [⟨"id_Item", "Item", .unstated⟩] } ∧
      cat.table? "Item" = some
        { name := "Item", primary := ⟨"ID", .number⟩
          columns := [⟨"ID_2", .varchar⟩, ⟨"id_Order", .number⟩]
          keys := [⟨"id_Order", "Order", .setNull⟩] } := by
  have h : shop.Built := Model.built_iff_wellFormed.mpr ⟨by decide, by decide, by decide⟩
  obtain ⟨cat, hrun, hperm, htable, hother⟩ := execute?_script_perm h
  obtain ⟨cat', hrun', hperm'⟩ := hother { shop with classes := shop.classes.reverse }
    (List.reverse_perm shop.classes) rfl
  obtain ⟨horder, hgift, hitem, -⟩ := by simpa only [shop, List.forall_mem_cons] using htable
  refine ⟨h, cat, cat', hrun, hrun', hperm, hperm', horder.trans ?_, hgift.trans ?_,
    hitem.trans ?_⟩
  · decide +kernel
  · decide +kernel
  · decide +kernel

end Blueprint.Schema

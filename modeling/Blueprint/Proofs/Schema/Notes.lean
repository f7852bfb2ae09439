import Blueprint.Proofs.Diagnostic
import Blueprint.Proofs.Schema.Design

/-!
# What a schema notes

A script notes the columns that get another name than the wanted one, and the attributes that get
none. As each class finds its table with nothing but the primary key, its notes are its own, and the
notes of a script are those of the classes, one class after another.
-/

namespace Blueprint.Schema

variable {m m' : Model} {ts : Tables} {cat : Catalog} {built : List ClassDecl} {c : ClassDecl}
  {references : List Reference}

/-- The notes on the columns of a class in a table whose columns are `taken`. -/
def columnNotes (taken : List String) (c : ClassDecl) (references : List Reference) :
    List Diagnostic :=
  let columns := attributeColumns c.name taken c.attributes
  columns.2 ++ (foreignKeys c.name (taken ++ columns.1.map Column.name) references).2

/-- The notes on the table that a class asks for. -/
def designNotes (m : Model) (c : ClassDecl) : List Diagnostic :=
  columnNotes [primaryKey] c ((m.departing c.name).filterMap reference?)

theorem designNotes_congr (h : m'.associations = m.associations) :
    designNotes m' = designNotes m := by
  funext c
  rw [designNotes, designNotes, Model.departing, Model.departing, h]

theorem journal_after (before after : Script) :
    (before.after after).journal = before.journal ++ after.journal := rfl

/-- Tables that are created ahead leave no notes. -/
theorem diagnostics_createArrivals (table : String) (ts : Tables) (as : List Association) :
    Journal.diagnostics (createArrivals table ts as).journal = [] := by
  induction as generalizing ts with
  | nil => rfl
  | cons a as ih =>
    rw [createArrivals]
    cases reference? a with
    | none => rw [journal_after, Journal.diagnostics_append, ih, List.append_nil]; rfl
    | some r =>
      dsimp only
      split
      · rw [journal_after, Journal.diagnostics_append, ih, List.append_nil]
        rfl
      · exact ih ts

theorem diagnostics_ownTable (c : ClassDecl) (references : List Reference) (ts : Tables) :
    Journal.diagnostics (ownTable c references ts).journal =
      columnNotes ((ensureTable ts c.name).columns c.name) c references := by
  set notes := columnNotes ((ensureTable ts c.name).columns c.name) c references
  -- both ends of the definition leave the same notes
  obtain ⟨isIdle, _, s₁, s₂, heq, h₁, h₂⟩ : ∃ (isIdle : Prop) (_ : Decidable isIdle)
      (s₁ s₂ : Script), ownTable c references ts = (if isIdle then s₁ else s₂) ∧
      s₁.journal = Journal.ofDiagnostics notes ++ [.event (.nothingAdded c.name)] ∧
      s₂.journal = Journal.ofDiagnostics notes := ⟨_, _, _, _, rfl, rfl, rfl⟩
  rw [heq]
  split
  · rw [h₁, Journal.diagnostics_append, Journal.diagnostics_ofDiagnostics]
    exact List.append_nil _
  · rw [h₂, Journal.diagnostics_ofDiagnostics]

/-- The notes on a class depend on the columns that its table has before. -/
theorem diagnostics_scriptOfClass (h : Mirrors ts cat) (m : Model) (c : ClassDecl) :
    Journal.diagnostics (scriptOfClass m ts c).journal =
      columnNotes (cat.tableOrBare c.name).columnNames c
        ((m.departing c.name).filterMap reference?) := by
  obtain ⟨news, -, hmade, hahead⟩ := createArrivals_executes h c.name (m.departing c.name)
  rw [scriptOfClass, journal_after, Journal.diagnostics_append, diagnostics_createArrivals,
    List.nil_append, diagnostics_ownTable, columns_ensureTable hmade, hahead.tableOrBare_eq]

theorem Designed.diagnostics_scriptOfClass (h : Designed m built cat) (hts : Mirrors ts cat)
    (hnew : c.name ∉ built.map ClassDecl.name) :
    Journal.diagnostics (Schema.scriptOfClass m ts c).journal = designNotes m c := by
  rw [Schema.diagnostics_scriptOfClass hts, h.tableOrBare_eq hnew]
  rfl

theorem Designed.diagnostics_scriptOfClasses (h : Designed m built cat) (hts : Mirrors ts cat)
    (hm : m.WellFormed) {cs : List ClassDecl} (hsub : cs ⊆ m.classes)
    (hnd : ((built ++ cs).map ClassDecl.name).Nodup) :
    Journal.diagnostics (Schema.scriptOfClasses m ts cs).journal = cs.flatMap (designNotes m) := by
  induction cs generalizing ts cat built with
  | nil => rfl
  | cons c cs ih =>
    have hsplit : built ++ c :: cs = built ++ [c] ++ cs := by simp
    have hnew := name_not_mem_of_nodup hnd
    obtain ⟨cat', -, hmirrors, hdesigned⟩ :=
      h.scriptOfClass hts hm (hsub List.mem_cons_self) hnew
    have hrest := ih hdesigned hmirrors (fun d hd => hsub (List.mem_cons_of_mem _ hd))
      (hsplit ▸ hnd)
    rw [Schema.scriptOfClasses, journal_after, Journal.diagnostics_append,
      h.diagnostics_scriptOfClass hts hnew, hrest, List.flatMap_cons]

/-- The notes of a script are those of the classes, in their order. -/
theorem diagnostics_script (hm : m.WellFormed) :
    Journal.diagnostics (script m []).journal = m.classes.flatMap (designNotes m) := by
  have hclasses := designed_nil.diagnostics_scriptOfClasses mirrors_nil hm (List.Subset.refl _)
    hm.names_nodup
  rw [script, Journal.diagnostics_within, Journal.diagnostics_append, hclasses]
  exact List.append_nil _

/-! ## How many notes -/

/-- The types of attributes that have a column. -/
def columnTypes : List String := ["String", "int", "long", "boolean", "float", "double"]

/-- The names of the columns that a class wants for its attributes and associations. -/
def wantedNames (m : Model) (c : ClassDecl) : List String :=
  (wantedColumns c ((m.departing c.name).filterMap wantedReference?)).map Column.name

variable {taken : List String}

theorem wantedColumn?_isNone_iff (a : Attribute) :
    (wantedColumn? a).isNone ↔ Text.trim a.type ∉ columnTypes := by
  simp only [wantedColumn?_eq, Option.isNone_map, ColumnType.ofAttributeType?, columnTypes,
    List.mem_cons, List.not_mem_nil, or_false]
  grind

theorem tally_columnRenamed (table wanted name : String) :
    Tally (columnRenamed table wanted name) 0 (differing [wanted] [name]) := by
  by_cases h : name = wanted
  · rw [columnRenamed, if_pos h, h]
    simpa [differing] using Tally.nil
  · rw [columnRenamed, if_neg h]
    have hone : differing [wanted] [name] = 1 := by simp [differing, Ne.symm h]
    rw [hone]
    exact Tally.info rfl

/-- Attributes without a column leave a warning each, and columns with another name than the wanted
one an info each. -/
theorem tally_attributeColumns (table : String) (taken : List String) (as : List Attribute) :
    let wanted := (as.filterMap wantedColumn?).map Column.name
    Tally (attributeColumns table taken as).2 (as.countP fun a => (wantedColumn? a).isNone)
      (differing wanted (freshNames "_" taken wanted)) := by
  induction as generalizing taken with
  | nil => exact Tally.nil
  | cons a as ih =>
    cases ht : ColumnType.ofAttributeType? a.type with
    | none =>
      have hskip : wantedColumn? a = none := by rw [wantedColumn?_eq, ht, Option.map_none]
      have hwarning : Tally [noColumn table a] 1 0 := Tally.warning rfl
      have hnotes := hwarning.append (ih taken)
      rw [Nat.add_comm, Nat.zero_add] at hnotes
      simpa [attributeColumns, ht, hskip] using hnotes
    | some type =>
      have hkeep : wantedColumn? a = some { name := a.name, type } := by
        rw [wantedColumn?_eq, ht, Option.map_some]
      have hnotes := (tally_columnRenamed table a.name (freshName a.name "_" taken)).append
        (ih (taken ++ [freshName a.name "_" taken]))
      rw [Nat.zero_add, ← differing_cons] at hnotes
      simpa [attributeColumns, ht, hkeep, freshNames] using hnotes

theorem tally_foreignKeys (table : String) (taken : List String) (rs : List Reference) :
    let wanted := rs.map Reference.column
    Tally (foreignKeys table taken rs).2 0 (differing wanted (freshNames "_" taken wanted)) := by
  induction rs generalizing taken with
  | nil => exact Tally.nil
  | cons r rs ih =>
    have hnotes := (tally_columnRenamed table r.column (freshName r.column "_" taken)).append
      (ih (taken ++ [freshName r.column "_" taken]))
    rw [Nat.zero_add, ← differing_cons] at hnotes
    exact hnotes

/-- The notes on the table of a class are as many as its attributes without a column and its columns
with another name than the wanted one. -/
theorem tally_columnNotes (taken : List String) (c : ClassDecl) (references : List Reference) :
    Tally (columnNotes taken c references) (c.attributes.countP fun a => (wantedColumn? a).isNone)
      (differing ((wantedColumns c references).map Column.name)
        (columnNames taken c references)) := by
  set wanted := (c.attributes.filterMap wantedColumn?).map Column.name with hwanted
  have hattributes := tally_attributeColumns c.name taken c.attributes
  have hkeys := tally_foreignKeys c.name (taken ++ freshNames "_" taken wanted) references
  have hnames : (attributeColumns c.name taken c.attributes).1.map Column.name =
      freshNames "_" taken wanted := by
    rw [attributeColumns_columns, map_name_withNames (by simp)]
  have hboth : (wantedColumns c references).map Column.name =
      wanted ++ references.map Reference.column := by
    rw [wantedColumns, List.map_append, List.map_map]
    rfl
  rw [hboth, columnNames_eq_append, ← hwanted, differing_append (length_freshNames _).symm]
  simp only [columnNotes, hnames]
  exact hattributes.append hkeys

theorem tally_designNotes (m : Model) (c : ClassDecl) :
    Tally (designNotes m c) (c.attributes.countP fun a => (wantedColumn? a).isNone)
      (differing (wantedNames m c) ((design m c).columns.map Column.name)) := by
  have hnotes := tally_columnNotes [primaryKey] c ((m.departing c.name).filterMap wantedReference?)
  rw [designNotes, reference?_eq_wantedReference?, wantedNames]
  rw [← map_name_ownColumns] at hnotes
  exact hnotes

end Blueprint.Schema

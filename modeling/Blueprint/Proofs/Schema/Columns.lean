import Blueprint.Proofs.Naming
import Blueprint.Proofs.Schema.Catalog
import Blueprint.Schema.Script

/-!
# The columns of a class

What a class adds to its table, told apart from the loops that add it: the columns it wants, under
the fresh names that they get one after another, and the foreign keys on the last of them.
-/

namespace Blueprint.Schema

/-- The types of attributes that have a column, and the types of these columns. -/
def mappedTypes : List (String × ColumnType) :=
  [("String", .varchar), ("int", .number), ("long", .number), ("boolean", .boolean),
    ("float", .float), ("double", .float)]

/-- The column that an attribute wants, if its type has one. -/
def wantedColumn? (a : Attribute) : Option Column :=
  (mappedTypes.lookup (Text.trim a.type)).map fun type => { name := a.name, type }

/-- The foreign key that an association wants, if its kind has one. -/
def wantedReference? (a : Association) : Option Reference :=
  match a.kind with
  | .generalization => some { table := a.arrival, onDelete := .unstated }
  | .aggregation => some { table := a.arrival, onDelete := .setNull }
  | .composition => some { table := a.arrival, onDelete := .cascade }
  | .other => none

/-- The columns that a class wants: those of its attributes, then those of its foreign keys. -/
def wantedColumns (c : ClassDecl) (references : List Reference) : List Column :=
  c.attributes.filterMap wantedColumn? ++
    references.map fun r => { name := "id_" ++ r.table, type := .number }

/-- The names that these columns get in a table whose columns are `taken`. -/
def columnNames (taken : List String) (c : ClassDecl) (references : List Reference) :
    List String :=
  freshNames "_" taken ((wantedColumns c references).map Column.name)

/-- Columns under other names. -/
def withNames (columns : List Column) (names : List String) : List Column :=
  List.zipWith (fun c name => { c with name }) columns names

/-- Foreign keys for references, on the columns of the given names. -/
def keysOn (references : List Reference) (names : List String) : List ForeignKey :=
  List.zipWith (fun r column => { column, references := r.table, onDelete := r.onDelete })
    references names

/-- The reference that a foreign key stands for. -/
def ForeignKey.reference (k : ForeignKey) : Reference :=
  { table := k.references, onDelete := k.onDelete }

/-- The columns that a class adds to a table whose columns are `taken`. -/
def ownColumns (taken : List String) (c : ClassDecl) (references : List Reference) :
    List Column :=
  withNames (wantedColumns c references) (columnNames taken c references)

/-- The foreign keys that a class adds to a table whose columns are `taken`. -/
def ownKeys (taken : List String) (c : ClassDecl) (references : List Reference) :
    List ForeignKey :=
  keysOn references
    ((columnNames taken c references).drop (c.attributes.filterMap wantedColumn?).length)

variable {taken : List String} {c : ClassDecl} {references : List Reference}

/-! ## Names -/

theorem map_name_withNames {columns : List Column} {names : List String}
    (h : names.length ≤ columns.length) : (withNames columns names).map Column.name = names := by
  rw [withNames, List.map_zipWith, ← List.map_uncurry_zip_eq_zipWith]
  exact List.map_snd_zip h

theorem map_column_keysOn {names : List String} (h : names.length ≤ references.length) :
    (keysOn references names).map ForeignKey.column = names := by
  rw [keysOn, List.map_zipWith, ← List.map_uncurry_zip_eq_zipWith]
  exact List.map_snd_zip h

theorem length_columnNames :
    (columnNames taken c references).length = (wantedColumns c references).length := by
  rw [columnNames, length_freshNames, List.length_map]

/-- The columns that a class adds have different names. -/
theorem nodup_columnNames : (columnNames taken c references).Nodup := nodup_freshNames _

/-- None of them is taken. -/
theorem not_mem_of_mem_columnNames {name : String} (h : name ∈ columnNames taken c references) :
    name ∉ taken := not_mem_of_mem_freshNames h

/-- The columns of a class have the names that were found for them. -/
theorem map_name_ownColumns :
    (ownColumns taken c references).map Column.name = columnNames taken c references :=
  map_name_withNames (Nat.le_of_eq length_columnNames)

theorem length_ownColumns :
    (ownColumns taken c references).length = (wantedColumns c references).length := by
  rw [← List.length_map Column.name, map_name_ownColumns, length_columnNames]

theorem length_drop_columnNames :
    ((columnNames taken c references).drop
      (c.attributes.filterMap wantedColumn?).length).length = references.length := by
  rw [List.length_drop, length_columnNames, wantedColumns, List.length_append, List.length_map]
  omega

/-- The foreign keys of a class are on the last of its columns. -/
theorem map_column_ownKeys :
    (ownKeys taken c references).map ForeignKey.column =
      (columnNames taken c references).drop (c.attributes.filterMap wantedColumn?).length :=
  map_column_keysOn (Nat.le_of_eq length_drop_columnNames)

/-- They stand for the references of the class, in their order. -/
theorem map_reference_ownKeys :
    (ownKeys taken c references).map ForeignKey.reference = references := by
  rw [ownKeys, keysOn, List.map_zipWith, ← List.map_uncurry_zip_eq_zipWith]
  exact List.map_fst_zip (Nat.le_of_eq length_drop_columnNames.symm)

theorem mem_columnNames_of_mem_ownKeys {k : ForeignKey} (h : k ∈ ownKeys taken c references) :
    k.column ∈ columnNames taken c references := by
  have hmem := List.mem_map_of_mem (f := ForeignKey.column) h
  rw [map_column_ownKeys] at hmem
  exact List.mem_of_mem_drop hmem

theorem exists_reference_of_mem_ownKeys {k : ForeignKey} (h : k ∈ ownKeys taken c references) :
    ∃ r ∈ references, r.table = k.references := by
  rw [ownKeys, keysOn, ← List.map_uncurry_zip_eq_zipWith] at h
  obtain ⟨⟨r, column⟩, hmem, rfl⟩ := List.mem_map.mp h
  exact ⟨r, (List.of_mem_zip hmem).1, rfl⟩

/-- Where a class adds no column, it adds no foreign key. -/
theorem ownKeys_eq_nil (h : ownColumns taken c references = []) :
    ownKeys taken c references = [] := by
  have hnames : columnNames taken c references = [] := by
    rw [← map_name_ownColumns, h, List.map_nil]
  rw [ownKeys, hnames, List.drop_nil, keysOn, List.zipWith_nil_right]

/-! ## The loops -/

theorem lookup_mappedTypes (type : String) :
    mappedTypes.lookup (Text.trim type) = ColumnType.ofAttributeType? type := by
  rw [ColumnType.ofAttributeType?]
  generalize Text.trim type = t
  by_cases hmapped : t ∈ mappedTypes.map Prod.fst
  · simp only [mappedTypes, List.map_cons, List.map_nil, List.mem_cons, List.not_mem_nil,
      or_false] at hmapped
    rcases hmapped with rfl | rfl | rfl | rfl | rfl | rfl <;> decide
  · have hnone : mappedTypes.lookup t = none := by
      rw [List.lookup_eq_none_iff]
      exact fun p hp => bne_iff_ne.mpr fun heq => hmapped (heq ▸ List.mem_map_of_mem hp)
    rw [hnone]
    simp only [mappedTypes, List.map_cons, List.map_nil, List.mem_cons, List.not_mem_nil,
      or_false, not_or] at hmapped
    simp [hmapped]

/-- The loop gives an attribute the column that it wants. -/
theorem wantedColumn?_eq (a : Attribute) : wantedColumn? a =
    (ColumnType.ofAttributeType? a.type).map fun type => { name := a.name, type } := by
  rw [wantedColumn?, lookup_mappedTypes]

theorem reference?_eq_wantedReference? : reference? = wantedReference? := by
  funext a
  cases hk : a.kind <;> simp [reference?, wantedReference?, OnDelete.ofKind?, hk]

theorem attributeColumns_columns (table : String) (as : List Attribute) :
    (attributeColumns table taken as).1 =
      withNames (as.filterMap wantedColumn?)
        (freshNames "_" taken ((as.filterMap wantedColumn?).map Column.name)) := by
  induction as generalizing taken with
  | nil => rfl
  | cons a as ih =>
    cases ht : ColumnType.ofAttributeType? a.type with
    | none =>
      have hskip : wantedColumn? a = none := by rw [wantedColumn?_eq, ht, Option.map_none]
      simp only [attributeColumns, ht, ih, List.filterMap_cons, hskip]
    | some type =>
      have hkeep : wantedColumn? a = some { name := a.name, type } := by
        rw [wantedColumn?_eq, ht, Option.map_some]
      simp only [attributeColumns, ht, ih, List.filterMap_cons, hkeep, List.map_cons, freshNames,
        withNames, List.zipWith_cons_cons]

theorem foreignKeys_keys (table : String) (rs : List Reference) :
    (foreignKeys table taken rs).1 =
      keysOn rs (freshNames "_" taken (rs.map Reference.column)) := by
  induction rs generalizing taken with
  | nil => rfl
  | cons r rs ih =>
    simp only [foreignKeys, ih, List.map_cons, freshNames, keysOn, List.zipWith_cons_cons]

/-- The names of the columns of a class, cut between attributes and foreign keys. -/
theorem columnNames_eq_append :
    columnNames taken c references =
      freshNames "_" taken ((c.attributes.filterMap wantedColumn?).map Column.name) ++
        freshNames "_" (taken ++ freshNames "_" taken
          ((c.attributes.filterMap wantedColumn?).map Column.name))
          (references.map Reference.column) := by
  rw [columnNames, wantedColumns, List.map_append, freshNames_append, List.map_map]
  rfl

/-- Both loops together find the columns and the foreign keys of a class. -/
theorem loops_eq_own (taken : List String) (c : ClassDecl) (references : List Reference) :
    let columns := (attributeColumns c.name taken c.attributes).1
    let keys := (foreignKeys c.name (taken ++ columns.map Column.name) references).1
    columns ++ keys.map (fun k => { name := k.column, type := .number }) =
      ownColumns taken c references ∧ keys = ownKeys taken c references := by
  intro columns keys
  set wanted := c.attributes.filterMap wantedColumn? with hwanted
  set names := freshNames "_" taken (wanted.map Column.name) with hnames
  have hlen : wanted.length = names.length := by rw [hnames, length_freshNames, List.length_map]
  have hcolumns : columns = withNames wanted names := attributeColumns_columns c.name c.attributes
  have htaken : columns.map Column.name = names := by
    rw [hcolumns, map_name_withNames (Nat.le_of_eq hlen.symm)]
  set keyNames := freshNames "_" (taken ++ names) (references.map Reference.column) with hkeyNames
  have hkeys : keys = keysOn references keyNames := by
    rw [hkeyNames, ← htaken]
    exact foreignKeys_keys c.name references
  have hsplit : columnNames taken c references = names ++ keyNames := columnNames_eq_append
  have hkeyLen : keyNames.length = references.length := by
    rw [hkeyNames, length_freshNames, List.length_map]
  have hkeyColumns : keys.map (fun k => ({ name := k.column, type := .number } : Column)) =
      withNames (references.map fun r => { name := "id_" ++ r.table, type := .number })
        keyNames := by
    rw [hkeys, keysOn, withNames, List.map_zipWith, List.zipWith_map_left]
  constructor
  · rw [hcolumns, hkeyColumns, ownColumns, hsplit, wantedColumns, withNames, withNames, withNames,
      List.zipWith_append hlen]
  · rw [hkeys, ownKeys, hsplit, ← hwanted, hlen, List.drop_left]

/-! ## The part of a class in a script -/

/-- The tables with one of a name, which is made if it is not there. -/
def ensureTable (ts : Tables) (table : String) : Tables :=
  if ts.isCreated table then ts else createTable ts table

/-- The statement in which a class adds what it has to add to its table. -/
def ownStatement (isThere : Bool) (taken : List String) (c : ClassDecl)
    (references : List Reference) : Statement :=
  { kind := if isThere then .alter else .create
    table := c.name
    columns := ownColumns taken c references
    keys := ownKeys taken c references }

theorem ownStatement_create_iff {isThere : Bool} :
    (ownStatement isThere taken c references).kind = .create ↔ ¬isThere := by
  cases isThere <;> simp [ownStatement]

theorem ownStatement_alter_iff {isThere : Bool} :
    (ownStatement isThere taken c references).kind = .alter ↔ isThere := by
  cases isThere <;> simp [ownStatement]

/-- All that the part of a class for its own table can be: nothing, where the table is there and has
nothing to get, and everywhere else one statement with all that the class adds. -/
theorem ownTable_cases (c : ClassDecl) (references : List Reference) (ts : Tables) :
    let before := ensureTable ts c.name
    let added := ownColumns (before.columns c.name) c references
    let own := ownTable c references ts
    (ts.isCreated c.name ∧ added = [] ∧ own.tables = before ∧ own.statements = []) ∨
      (¬(ts.isCreated c.name ∧ added = []) ∧
        own.tables = before.addColumns c.name (added.map Column.name) ∧
        own.statements =
          [ownStatement (ts.isCreated c.name) (before.columns c.name) c references]) := by
  intro before added own
  obtain ⟨hadded, hkeys⟩ := loops_eq_own (before.columns c.name) c references
  set columns := (attributeColumns c.name (before.columns c.name) c.attributes).1
  set keys := (foreignKeys c.name (before.columns c.name ++ columns.map Column.name) references).1
  set keyColumns : List Column := keys.map fun k => { name := k.column, type := .number }
  -- the two ends of the definition, with the loops' results under names
  have hdef : ∃ j₁ j₂, own =
      if (if ts.isCreated c.name then StatementKind.alter else .create) = .alter ∧
          (columns ++ keyColumns).isEmpty then
        { tables := before, journal := j₁ }
      else
        { tables := before.addColumns c.name ((columns ++ keyColumns).map Column.name)
          statements :=
            [{ kind := if ts.isCreated c.name then .alter else .create
               table := c.name
               columns := columns ++ keyColumns
               keys }]
          journal := j₂ } := ⟨_, _, rfl⟩
  obtain ⟨j₁, j₂, hdef⟩ := hdef
  rw [hadded, hkeys] at hdef
  by_cases hnone : ts.isCreated c.name ∧ added = []
  · rw [if_pos ⟨if_pos hnone.1, List.isEmpty_iff.mpr hnone.2⟩] at hdef
    exact Or.inl ⟨hnone.1, hnone.2, by rw [hdef], by rw [hdef]⟩
  · rw [if_neg ?_] at hdef
    · exact Or.inr ⟨hnone, by rw [hdef], by rw [hdef, ownStatement]⟩
    · rintro ⟨hkind, hempty⟩
      refine hnone ⟨?_, List.isEmpty_iff.mp hempty⟩
      by_contra hc
      rw [if_neg hc] at hkind
      exact absurd hkind (by decide)

end Blueprint.Schema

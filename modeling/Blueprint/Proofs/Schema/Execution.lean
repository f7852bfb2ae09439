import Blueprint.Proofs.Schema.Columns
import Blueprint.Proofs.Schema.Tables

/-!
# Schema scripts can be executed

A script keeps account of the tables that it has made. This account mirrors the catalog that its
statements have built so far, so every statement is written for the very catalog that it meets, and
a database accepts all of them, whatever the models are and however many are written one after
another.
-/

namespace Blueprint.Schema

variable {ts : Tables} {cat : Catalog}

/-- A table with nothing but its primary key. -/
def bareTable (name : String) : StoredTable :=
  { name, primary := { name := primaryKey, type := .number } }

/-- The tables in being are those of a catalog. -/
structure Mirrors (ts : Tables) (cat : Catalog) : Prop where
  /-- Each table is there with its columns. -/
  registry_eq : cat.registry = ts
  /-- No two tables share a name. -/
  names_nodup : cat.names.Nodup
  /-- All of them have the same primary key. -/
  primary_eq : ∀ t ∈ cat, t.primary.name = primaryKey

theorem mirrors_nil : Mirrors [] [] :=
  ⟨rfl, List.nodup_nil, fun _ ht => absurd ht List.not_mem_nil⟩

namespace Mirrors

theorem map_name_eq (h : Mirrors ts cat) : ts.map Table.name = cat.names := by
  rw [← h.registry_eq, Catalog.registry, List.map_map]
  rfl

theorem isCreated_iff (h : Mirrors ts cat) {name : String} :
    ts.isCreated name ↔ name ∈ cat.names := by
  rw [Tables.isCreated_iff, h.map_name_eq]

theorem primaryKey_mem (h : Mirrors ts cat) {t : StoredTable} (ht : t ∈ cat) :
    primaryKey ∈ t.columnNames := by
  rw [StoredTable.columnNames, h.primary_eq t ht]
  exact List.mem_cons_self

/-- A table that a foreign key may lead to. -/
theorem exists_target (h : Mirrors ts cat) {name : String} (hname : name ∈ cat.names) :
    ∃ t ∈ cat, t.name = name ∧ primaryKey ∈ t.columnNames := by
  obtain ⟨t, ht, rfl⟩ := List.mem_map.mp hname
  exact ⟨t, ht, rfl, h.primaryKey_mem ht⟩

/-- Creating a table. -/
theorem create (h : Mirrors ts cat) {s : Statement} (hs : s.Admissible cat)
    (hk : s.kind = .create) :
    Mirrors (ts ++ [{ name := s.table, columns := s.addedNames }]) (s.apply cat) := by
  have hentry : s.created.entry = { name := s.table, columns := s.addedNames } := by
    rw [Statement.addedNames, if_pos hk]
    rfl
  have happly : s.apply cat = cat ++ [s.created] := by rw [Statement.apply, hk]
  refine ⟨?_, Statement.nodup_names_apply hs h.names_nodup, ?_⟩
  · rw [happly, Catalog.registry, List.map_append, List.map_singleton, hentry, ← h.registry_eq,
      Catalog.registry]
  · intro t ht
    rw [happly] at ht
    rcases List.mem_append.mp ht with ht | ht
    · exact h.primary_eq t ht
    · rw [List.mem_singleton.mp ht]
      rfl

/-- Adding to a table. -/
theorem alter (h : Mirrors ts cat) {s : Statement} (hs : s.Admissible cat)
    (hk : s.kind = .alter) :
    Mirrors (ts.widen s.table (s.columns.map Column.name)) (s.apply cat) := by
  have happly : s.apply cat =
      cat.map fun t => if t.name = s.table then t.extend s.columns s.keys else t := by
    rw [Statement.apply, hk]
  refine ⟨?_, Statement.nodup_names_apply hs h.names_nodup, ?_⟩
  · rw [happly, ← h.registry_eq, Catalog.registry, Catalog.registry, Tables.widen, List.map_map,
      List.map_map]
    refine List.map_congr_left fun t _ => ?_
    by_cases ht : t.name = s.table
    · simp [ht, StoredTable.entry, StoredTable.extend, StoredTable.columnNames]
    · simp [ht, StoredTable.entry]
  · intro t ht
    rw [happly] at ht
    obtain ⟨u, hu, rfl⟩ := List.mem_map.mp ht
    by_cases hut : u.name = s.table
    · rw [if_pos hut]
      exact h.primary_eq u hu
    · rw [if_neg hut]
      exact h.primary_eq u hu

end Mirrors

/-! ## The tables ahead of a class -/

theorem Script.statements_after (before after : Script) :
    (before.after after).statements = before.statements ++ after.statements := rfl

/-- The statement that makes a table ahead of its class. -/
theorem admissible_bare {name : String} (h : name ∉ cat.names) :
    Statement.Admissible { kind := .create, table := name } cat where
  create_absent _ := h
  alter_present hk := nomatch hk
  added_nodup := List.nodup_singleton primaryKey
  added_new t ht e := absurd (List.mem_map.mpr ⟨t, ht, e⟩) h
  key_column _ hk := absurd hk List.not_mem_nil
  key_target _ hk := absurd hk List.not_mem_nil

/-- Creating a table that is not there. -/
theorem Mirrors.createTable (h : Mirrors ts cat) {name : String} (hn : name ∉ cat.names) :
    cat.execute? [{ kind := .create, table := name }] = some (cat ++ [bareTable name]) ∧
      Mirrors (createTable ts name) (cat ++ [bareTable name]) := by
  have hs := admissible_bare hn
  refine ⟨Catalog.execute?_singleton hs, ?_⟩
  have htables : Schema.createTable ts name = ts ++ [{ name, columns := [primaryKey] }] :=
    Tables.addColumn_of_not_mem (h.map_name_eq ▸ hn)
  rw [htables]
  exact h.create hs rfl

/-- The tables `news` are what associations of a class need beside its own table: bare tables that
some of them lead to, and after them no table is missing. -/
structure Ahead (cat news : Catalog) (table : String) (as : List Association) : Prop where
  /-- Each table is bare, and an association leads to it. -/
  bare : ∀ t ∈ news, t = bareTable t.name ∧ t.name ≠ table ∧ ∃ a ∈ as, a.arrival = t.name
  /-- All tables are there that foreign keys lead to. -/
  there : ∀ a ∈ as, (reference? a).isSome → a.arrival ≠ table →
    a.arrival ∈ Catalog.names (cat ++ news)

namespace Ahead

variable {news : Catalog} {table : String} {a : Association} {as : List Association}

theorem nil : Ahead cat [] table [] :=
  ⟨fun _ ht => absurd ht List.not_mem_nil, fun _ ha => absurd ha List.not_mem_nil⟩

/-- An association that needs no table, or one that is there. -/
theorem cons_of_there (h : Ahead cat news table as)
    (ha : (reference? a).isSome → a.arrival ≠ table → a.arrival ∈ cat.names) :
    Ahead cat news table (a :: as) := by
  refine ⟨?_, ?_⟩
  · intro t ht
    obtain ⟨hbare, hne, b, hb, hab⟩ := h.bare t ht
    exact ⟨hbare, hne, b, List.mem_cons_of_mem _ hb, hab⟩
  · intro b hb hsome hne
    rcases List.mem_cons.mp hb with rfl | hb
    · rw [Catalog.names, List.map_append]
      exact List.mem_append_left _ (ha hsome hne)
    · exact h.there b hb hsome hne

/-- An association for which a table is made. -/
theorem cons_of_made (h : Ahead (cat ++ [bareTable a.arrival]) news table as)
    (hne : a.arrival ≠ table) : Ahead cat (bareTable a.arrival :: news) table (a :: as) := by
  have happend : cat ++ [bareTable a.arrival] ++ news = cat ++ (bareTable a.arrival :: news) := by
    simp
  refine ⟨?_, ?_⟩
  · intro t ht
    rcases List.mem_cons.mp ht with rfl | ht
    · exact ⟨rfl, hne, a, List.mem_cons_self, rfl⟩
    · obtain ⟨hbare, hother, b, hb, hab⟩ := h.bare t ht
      exact ⟨hbare, hother, b, List.mem_cons_of_mem _ hb, hab⟩
  · intro b hb hsome hother
    rcases List.mem_cons.mp hb with rfl | hb
    · simp [Catalog.names, bareTable]
    · exact happend ▸ h.there b hb hsome hother

end Ahead

/-- The tables ahead of a class are made. -/
theorem createArrivals_executes (h : Mirrors ts cat) (table : String) (as : List Association) :
    ∃ news : Catalog,
      cat.execute? (createArrivals table ts as).statements = some (cat ++ news) ∧
      Mirrors (createArrivals table ts as).tables (cat ++ news) ∧ Ahead cat news table as := by
  induction as generalizing ts cat with
  | nil =>
    refine ⟨[], ?_, ?_, Ahead.nil⟩
    · rw [List.append_nil]
      rfl
    · rw [List.append_nil]
      exact h
  | cons a as ih =>
    -- a table is made only here, where it is needed and missing
    by_cases hnew : (reference? a).isSome ∧ a.arrival ≠ table ∧ !ts.isCreated a.arrival
    · obtain ⟨hsome, hne, hcreated⟩ := hnew
      obtain ⟨r, hr⟩ := Option.isSome_iff_exists.mp hsome
      have habsent : a.arrival ∉ cat.names := by
        rw [← h.isCreated_iff]
        simpa using hcreated
      obtain ⟨hmake, hmade⟩ := h.createTable habsent
      obtain ⟨news, hrun, hmirrors, hahead⟩ := ih hmade
      have happend : cat ++ [bareTable a.arrival] ++ news =
          cat ++ (bareTable a.arrival :: news) := by simp
      have hscript : createArrivals table ts (a :: as) =
          Script.after
            { tables := createTable ts a.arrival
              statements := [{ kind := .create, table := a.arrival }]
              journal := [.event (.tableAhead a.arrival)] }
            (createArrivals table (createTable ts a.arrival) as) := by
        rw [createArrivals, hr]
        exact if_pos ⟨hne, hcreated⟩
      refine ⟨bareTable a.arrival :: news, ?_, ?_, hahead.cons_of_made hne⟩
      · rw [hscript, Script.statements_after, Catalog.execute?_append hmake, hrun, happend]
      · rw [hscript, ← happend]
        exact hmirrors
    · obtain ⟨news, hrun, hmirrors, hahead⟩ := ih h
      have hsame : (createArrivals table ts (a :: as)).statements =
            (createArrivals table ts as).statements ∧
          (createArrivals table ts (a :: as)).tables = (createArrivals table ts as).tables := by
        rw [createArrivals]
        cases hr : reference? a with
        | none => exact ⟨rfl, rfl⟩
        | some r =>
          have hneedless : ¬(a.arrival ≠ table ∧ !ts.isCreated a.arrival) :=
            fun e => hnew ⟨by rw [hr]; rfl, e⟩
          simp only [if_neg hneedless, and_self]
      rw [hsame.1, hsame.2]
      refine ⟨news, hrun, hmirrors, hahead.cons_of_there fun hsome hne => ?_⟩
      by_contra habsent
      rw [← h.isCreated_iff] at habsent
      exact hnew ⟨hsome, hne, by simpa using habsent⟩

/-! ## The table of a class -/

/-- The table of a name, bare if it is not there. -/
def Catalog.tableOrBare (cat : Catalog) (name : String) : StoredTable :=
  (cat.table? name).getD (bareTable name)

variable {c : ClassDecl} {references : List Reference}

theorem tableOrBare_of_mem (h : Mirrors ts cat) {t : StoredTable} (ht : t ∈ cat) :
    cat.tableOrBare t.name = t := by
  rw [Catalog.tableOrBare, Catalog.table?_of_mem h.names_nodup ht, Option.getD_some]

theorem tableOrBare_of_not_mem {name : String} (h : name ∉ cat.names) :
    cat.tableOrBare name = bareTable name := by
  rw [Catalog.tableOrBare, Catalog.table?_eq_none_iff.mpr h, Option.getD_none]

/-- The columns of the table of a class before the class adds its own. -/
theorem columns_ensureTable (h : Mirrors ts cat) :
    (ensureTable ts c.name).columns c.name = (cat.tableOrBare c.name).columnNames := by
  by_cases hc : c.name ∈ cat.names
  · obtain ⟨t, ht⟩ := Option.isSome_iff_exists.mp (Catalog.table?_isSome_iff.mpr hc)
    rw [ensureTable, if_pos (h.isCreated_iff.mpr hc), ← h.registry_eq,
      Catalog.columns_registry ht, Catalog.tableOrBare, ht, Option.getD_some]
  · obtain ⟨-, hmade⟩ := h.createTable hc
    have hfind : Catalog.table? (cat ++ [bareTable c.name]) c.name = some (bareTable c.name) :=
      Catalog.table?_of_mem hmade.names_nodup (List.mem_append_right _ (List.mem_singleton_self _))
    rw [ensureTable, if_neg fun hn => hc (h.isCreated_iff.mp hn), ← hmade.registry_eq,
      Catalog.columns_registry hfind, tableOrBare_of_not_mem hc]

theorem columnNames_tableOrBare (h : Mirrors ts cat) {t : StoredTable} (ht : t ∈ cat)
    (hname : t.name = c.name) : (cat.tableOrBare c.name).columnNames = t.columnNames := by
  rw [← hname, tableOrBare_of_mem h ht]

/-- What a class adds to its table, new or not, is accepted there. -/
theorem admissible_own (h : Mirrors ts cat)
    (htarget : ∀ r ∈ references, r.table = c.name ∨ r.table ∈ cat.names) :
    (ownStatement (ts.isCreated c.name) (cat.tableOrBare c.name).columnNames c
      references).Admissible cat := by
  set taken := (cat.tableOrBare c.name).columnNames with htaken
  have hnd : (columnNames taken c references).Nodup := nodup_columnNames
  refine ⟨?_, ?_, ?_, ?_, ?_, ?_⟩
  · intro hk hn
    exact ownStatement_create_iff.mp hk (h.isCreated_iff.mpr hn)
  · intro hk
    exact h.isCreated_iff.mp (ownStatement_alter_iff.mp hk)
  · by_cases hc : ts.isCreated c.name
    · simpa [Statement.addedNames, ownStatement, hc, map_name_ownColumns] using hnd
    · rw [tableOrBare_of_not_mem fun hn => hc (h.isCreated_iff.mpr hn)] at htaken
      have hkey : primaryKey ∉ columnNames taken c references :=
        fun hn => not_mem_of_mem_columnNames hn (htaken ▸ List.mem_cons_self)
      simpa [Statement.addedNames, ownStatement, hc, map_name_ownColumns] using ⟨hkey, hnd⟩
  · intro t ht e n hn
    have hc : ts.isCreated c.name := h.isCreated_iff.mpr (List.mem_map.mpr ⟨t, ht, e⟩)
    have hmem : n ∈ columnNames taken c references := by
      simpa [Statement.addedNames, ownStatement, hc, map_name_ownColumns] using hn
    rw [← columnNames_tableOrBare h ht e]
    exact not_mem_of_mem_columnNames hmem
  · intro k hk
    rw [ownStatement, map_name_ownColumns]
    exact mem_columnNames_of_mem_ownKeys hk
  · intro k hk
    obtain ⟨r, hr, hrk⟩ := exists_reference_of_mem_ownKeys hk
    rw [← hrk]
    exact (htarget r hr).imp_right h.exists_target

/-- The account after a class has added to its table is that of the tables after its statement. -/
theorem mirrors_own (h : Mirrors ts cat)
    (hs : (ownStatement (ts.isCreated c.name) (cat.tableOrBare c.name).columnNames c
      references).Admissible cat) :
    Mirrors ((ensureTable ts c.name).addColumns c.name
        (columnNames (cat.tableOrBare c.name).columnNames c references))
      ((ownStatement (ts.isCreated c.name) (cat.tableOrBare c.name).columnNames c
        references).apply cat) := by
  set taken := (cat.tableOrBare c.name).columnNames with htaken
  by_cases hc : ts.isCreated c.name
  · have hwide : (ensureTable ts c.name).addColumns c.name (columnNames taken c references) =
        ts.widen c.name (columnNames taken c references) := by
      rw [ensureTable, if_pos hc]
      refine Tables.addColumns_of_mem (Tables.isCreated_iff.mp hc) nodup_columnNames ?_
      intro t ht e n hn
      rw [← h.registry_eq] at ht
      obtain ⟨u, hu, rfl⟩ := List.mem_map.mp ht
      rw [show u.entry.columns = taken from (columnNames_tableOrBare h hu e).symm]
      exact not_mem_of_mem_columnNames hn
    have halter := h.alter hs (ownStatement_alter_iff.mpr hc)
    rw [ownStatement, map_name_ownColumns] at halter
    rw [hwide]
    exact halter
  · have habsent : c.name ∉ cat.names := fun hn => hc (h.isCreated_iff.mpr hn)
    have hnone : c.name ∉ ts.map Table.name := h.map_name_eq ▸ habsent
    have hkey : primaryKey ∉ columnNames taken c references := by
      intro hn
      refine not_mem_of_mem_columnNames hn ?_
      rw [htaken, tableOrBare_of_not_mem habsent]
      exact List.mem_cons_self
    have hwide : (ensureTable ts c.name).addColumns c.name (columnNames taken c references) =
        ts ++ [{ name := c.name, columns := primaryKey :: columnNames taken c references }] := by
      have hmade : createTable ts c.name = ts ++ [{ name := c.name, columns := [primaryKey] }] :=
        Tables.addColumn_of_not_mem hnone
      rw [ensureTable, if_neg hc, hmade]
      exact Tables.addColumns_append_last hnone nodup_columnNames hkey
    have hcreate := h.create hs (ownStatement_create_iff.mpr hc)
    rw [Statement.addedNames, if_pos (ownStatement_create_iff.mpr hc), ownStatement,
      map_name_ownColumns] at hcreate
    rw [hwide]
    exact hcreate

/-- What the statement of a class does to its table. -/
theorem effect_own (h : Mirrors ts cat) :
    (ownStatement (ts.isCreated c.name) (cat.tableOrBare c.name).columnNames c references).effect
        (cat.table? c.name) =
      some ((cat.tableOrBare c.name).extend
        (ownColumns (cat.tableOrBare c.name).columnNames c references)
        (ownKeys (cat.tableOrBare c.name).columnNames c references)) := by
  by_cases hc : ts.isCreated c.name
  · obtain ⟨t, ht⟩ := Option.isSome_iff_exists.mp
      (Catalog.table?_isSome_iff.mpr (h.isCreated_iff.mp hc))
    rw [Statement.effect, ownStatement_alter_iff.mpr hc, Catalog.tableOrBare, ht]
    rfl
  · have habsent : c.name ∉ cat.names := fun hn => hc (h.isCreated_iff.mpr hn)
    rw [Statement.effect, ownStatement_create_iff.mpr hc, tableOrBare_of_not_mem habsent]
    rfl

/-- A class adds its columns and foreign keys to its table and leaves all other tables alone. -/
theorem ownTable_executes (h : Mirrors ts cat)
    (htarget : ∀ r ∈ references, r.table = c.name ∨ r.table ∈ cat.names) :
    let own := cat.tableOrBare c.name
    ∃ cat', cat.execute? (ownTable c references ts).statements = some cat' ∧
      Mirrors (ownTable c references ts).tables cat' ∧
      ∀ name, cat'.table? name =
        if name = c.name then
          some (own.extend (ownColumns own.columnNames c references)
            (ownKeys own.columnNames c references))
        else cat.table? name := by
  intro own
  have hcases := ownTable_cases c references ts
  simp only [columns_ensureTable h] at hcases
  rcases hcases with ⟨hc, hnil, htables, hstatements⟩ | ⟨-, htables, hstatements⟩
  · rw [ensureTable, if_pos hc] at htables
    refine ⟨cat, by rw [hstatements]; rfl, by rw [htables]; exact h, ?_⟩
    intro name
    by_cases hname : name = c.name
    · obtain ⟨t, ht, hte, -⟩ := h.exists_target (h.isCreated_iff.mp hc)
      have hown : own = t := by
        rw [show own = cat.tableOrBare c.name from rfl, ← hte, tableOrBare_of_mem h ht]
      rw [if_pos hname, hname, ownKeys_eq_nil hnil, hnil, ← hte, Catalog.table?_of_mem
        h.names_nodup ht, hown]
      simp [StoredTable.extend]
    · rw [if_neg hname]
  · have hs := admissible_own h htarget
    refine ⟨_, by rw [hstatements]; exact Catalog.execute?_singleton hs, ?_, ?_⟩
    · rw [htables, map_name_ownColumns]
      exact mirrors_own h hs
    · intro name
      rw [Statement.table?_apply hs, show (ownStatement _ _ c references).table = c.name from rfl]
      by_cases hname : name = c.name
      · rw [if_pos hname, if_pos hname, hname, effect_own h]
      · rw [if_neg hname, if_neg hname]

/-! ## The part of a class -/

theorem table?_append (news : Catalog) (name : String) :
    Catalog.table? (cat ++ news) name = (cat.table? name).or (news.table? name) := by
  rw [Catalog.table?, List.find?_append]
  rfl

/-- The tables ahead of a class leave the table of the class alone. -/
theorem Ahead.tableOrBare_eq {news : Catalog} {table : String} {as : List Association}
    (h : Ahead cat news table as) :
    Catalog.tableOrBare (cat ++ news) table = cat.tableOrBare table := by
  have hfresh : news.table? table = none := by
    refine Catalog.table?_eq_none_iff.mpr fun hn => ?_
    obtain ⟨t, ht, hte⟩ := List.mem_map.mp hn
    exact (h.bare t ht).2.1 hte
  rw [Catalog.tableOrBare, table?_append, hfresh, Option.or_none, Catalog.tableOrBare]

theorem exists_association_of_mem_filterMap {as : List Association} {r : Reference}
    (h : r ∈ as.filterMap reference?) : ∃ a ∈ as, (reference? a).isSome ∧ a.arrival = r.table := by
  obtain ⟨a, ha, har⟩ := List.mem_filterMap.mp h
  refine ⟨a, ha, by rw [har]; rfl, ?_⟩
  obtain ⟨o, -, rfl⟩ := Option.map_eq_some_iff.mp har
  rfl

/-- The part of a class in a script extends the table of the class, keeps all other tables, and
makes no other ones than bare tables that associations of the class lead to. -/
theorem scriptOfClass_executes (h : Mirrors ts cat) (m : Model) (c : ClassDecl) :
    let references := (m.departing c.name).filterMap reference?
    let own := cat.tableOrBare c.name
    ∃ cat', cat.execute? (scriptOfClass m ts c).statements = some cat' ∧
      Mirrors (scriptOfClass m ts c).tables cat' ∧
      cat'.table? c.name = some (own.extend (ownColumns own.columnNames c references)
        (ownKeys own.columnNames c references)) ∧
      (∀ name t, name ≠ c.name → cat.table? name = some t → cat'.table? name = some t) ∧
      ∀ name t, name ≠ c.name → cat'.table? name = some t →
        cat.table? name = some t ∨
          t = bareTable name ∧ ∃ a ∈ m.departing c.name, a.arrival = name := by
  intro references own
  obtain ⟨news, harrivals, hmade, hahead⟩ :=
    createArrivals_executes h c.name (m.departing c.name)
  have hown : Catalog.tableOrBare (cat ++ news) c.name = own := hahead.tableOrBare_eq
  have htarget : ∀ r ∈ references, r.table = c.name ∨ r.table ∈ Catalog.names (cat ++ news) := by
    intro r hr
    obtain ⟨a, ha, hsome, har⟩ := exists_association_of_mem_filterMap hr
    by_cases hne : a.arrival = c.name
    · exact Or.inl (har ▸ hne)
    · exact Or.inr (har ▸ hahead.there a ha hsome hne)
  obtain ⟨cat', hrun, hmirrors, htable⟩ := ownTable_executes (c := c) hmade htarget
  rw [hown] at htable
  refine ⟨cat', ?_, hmirrors, ?_, ?_, ?_⟩
  · rw [scriptOfClass, Script.statements_after, Catalog.execute?_append harrivals, hrun]
  · rw [htable, if_pos rfl]
  · intro name t hne ht
    rw [htable, if_neg hne, table?_append, ht, Option.some_or]
  · intro name t hne ht
    rw [htable, if_neg hne, table?_append] at ht
    rcases Option.or_eq_some_iff.mp ht with ht | ⟨-, ht⟩
    · exact Or.inl ht
    · obtain ⟨hmem, hname⟩ := Catalog.mem_of_table? ht
      obtain ⟨hbare, -, a, ha, har⟩ := hahead.bare t hmem
      exact Or.inr ⟨hname ▸ hbare, a, ha, har.trans hname⟩

/-! ## Whole scripts -/

theorem statements_scriptOfClasses_cons (m : Model) (ts : Tables) (c : ClassDecl)
    (cs : List ClassDecl) :
    (scriptOfClasses m ts (c :: cs)).statements = (scriptOfClass m ts c).statements ++
      (scriptOfClasses m (scriptOfClass m ts c).tables cs).statements := rfl

/-- The parts of classes leave no class without a table. -/
theorem scriptOfClasses_executes (h : Mirrors ts cat) (m : Model) (cs : List ClassDecl) :
    ∃ cat', cat.execute? (scriptOfClasses m ts cs).statements = some cat' ∧
      Mirrors (scriptOfClasses m ts cs).tables cat' ∧
      (∀ name ∈ cat.names, name ∈ cat'.names) ∧ ∀ c ∈ cs, c.name ∈ cat'.names := by
  induction cs generalizing ts cat with
  | nil => exact ⟨cat, rfl, h, fun _ hn => hn, fun c hc => absurd hc List.not_mem_nil⟩
  | cons c cs ih =>
    obtain ⟨cat₁, hrun₁, hmirrors₁, hown, hkept, -⟩ := scriptOfClass_executes h m c
    obtain ⟨cat₂, hrun₂, hmirrors₂, hgrows, hclasses⟩ := ih hmirrors₁
    have hmem : c.name ∈ cat₁.names := Catalog.table?_isSome_iff.mp (by rw [hown]; rfl)
    refine ⟨cat₂, ?_, hmirrors₂, ?_, ?_⟩
    · rw [statements_scriptOfClasses_cons, Catalog.execute?_append hrun₁, hrun₂]
    · intro name hname
      refine hgrows name ?_
      by_cases hne : name = c.name
      · exact hne ▸ hmem
      · obtain ⟨t, ht⟩ := Option.isSome_iff_exists.mp (Catalog.table?_isSome_iff.mpr hname)
        exact Catalog.table?_isSome_iff.mp (by rw [hkept name t hne ht]; rfl)
    · intro d hd
      rcases List.mem_cons.mp hd with rfl | hd
      · exact hgrows _ hmem
      · exact hclasses d hd

/-- The scripts of models, written one after another with one account of the tables in being. -/
def scripts (ts : Tables) : List Model → Script
  | [] => { tables := ts }
  | m :: ms =>
    let first := script m ts
    first.after (scripts first.tables ms)

/-- Scripts that follow one another go on from any catalog that the account mirrors. -/
theorem scripts_executes (h : Mirrors ts cat) (ms : List Model) :
    ∃ cat', cat.execute? (scripts ts ms).statements = some cat' ∧
      Mirrors (scripts ts ms).tables cat' ∧
      (∀ name ∈ cat.names, name ∈ cat'.names) ∧
      ∀ m ∈ ms, ∀ c ∈ m.classes, c.name ∈ cat'.names := by
  induction ms generalizing ts cat with
  | nil => exact ⟨cat, rfl, h, fun _ hn => hn, fun m hm => absurd hm List.not_mem_nil⟩
  | cons m ms ih =>
    obtain ⟨cat₁, hrun₁, hmirrors₁, hgrows₁, hclasses₁⟩ := scriptOfClasses_executes h m m.classes
    have hmade : Mirrors (script m ts).tables cat₁ := hmirrors₁
    obtain ⟨cat₂, hrun₂, hmirrors₂, hgrows₂, hclasses₂⟩ := ih hmade
    refine ⟨cat₂, ?_, hmirrors₂, fun name hname => hgrows₂ _ (hgrows₁ _ hname), ?_⟩
    · rw [scripts, Script.statements_after, show (script m ts).statements =
        (scriptOfClasses m ts m.classes).statements from rfl, Catalog.execute?_append hrun₁, hrun₂]
    · intro m' hm' c hc
      rcases List.mem_cons.mp hm' with rfl | hm'
      · exact hgrows₂ _ (hclasses₁ c hc)
      · exact hclasses₂ m' hm' c hc

/-- A database without tables accepts the scripts of any models, written one after another. What
they build is what the account says is there: the same tables with the same columns, among them one
for every class of the models. As the models are any, so it is after each of them. -/
theorem execute?_scripts (ms : List Model) :
    ∃ cat, Catalog.execute? [] (scripts [] ms).statements = some cat ∧
      cat.registry = (scripts [] ms).tables ∧ cat.names.Nodup ∧
      ∀ m ∈ ms, ∀ c ∈ m.classes, c.name ∈ cat.names := by
  obtain ⟨cat, hrun, hmirrors, -, hclasses⟩ := scripts_executes mirrors_nil ms
  exact ⟨cat, hrun, hmirrors.registry_eq, hmirrors.names_nodup, hclasses⟩

/-- What is left when classes are renamed without care: two of them share a name, and a class that
another one owns is no longer there. -/
def renamed : Model where
  classes := [
    { name := "Person", attributes := [⟨"name", "String", .priv⟩] },
    { name := "Person", attributes := [⟨"name", "String", .priv⟩] }]
  associations := [{ kind := .composition, departure := "Person", arrival := "Address" }]

/-- Two scripts of such a model, one after the other, are accepted as well. -/
theorem execute?_scripts_renamed :
    ∃ cat, Catalog.execute? [] (scripts [] [renamed, renamed]).statements = some cat ∧
      cat.registry = (scripts [] [renamed, renamed]).tables ∧ cat.names.Nodup ∧
      "Person" ∈ cat.names := by
  obtain ⟨cat, hrun, hregistry, hnd, hclasses⟩ := execute?_scripts [renamed, renamed]
  let person : ClassDecl := { name := "Person", attributes := [⟨"name", "String", .priv⟩] }
  have hperson : person ∈ renamed.classes := List.mem_cons_self
  exact ⟨cat, hrun, hregistry, hnd, hclasses renamed List.mem_cons_self person hperson⟩

end Blueprint.Schema

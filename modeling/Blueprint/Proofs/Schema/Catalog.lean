import Blueprint.Proofs.Naming
import Blueprint.Schema.Statement
import Blueprint.Schema.Tables
import Mathlib.Data.List.Nodup

/-!
# What statements do to a database

A catalog holds the tables of a database. A statement is admissible in a catalog if a database would
accept it there, and `Catalog.execute?` runs a script as long as each statement is.

The tables in being that a script keeps account of are a view of a catalog, `Catalog.registry`: the
names of its tables with the names of their columns.
-/

namespace Blueprint.Schema

/-- A table of a database. -/
structure StoredTable where
  /-- The name. -/
  name : String
  /-- The primary key. -/
  primary : Column
  /-- The other columns, in the order in which they were added. -/
  columns : List Column := []
  /-- The foreign keys, in the order in which they were added. -/
  keys : List ForeignKey := []
  deriving DecidableEq, Repr

namespace StoredTable

/-- The names of all columns. -/
def columnNames (t : StoredTable) : List String := t.primary.name :: t.columns.map Column.name

/-- What an account of the tables in being says of a table. -/
def entry (t : StoredTable) : Table := { name := t.name, columns := t.columnNames }

/-- A table with more columns and foreign keys. -/
def extend (t : StoredTable) (columns : List Column) (keys : List ForeignKey) : StoredTable :=
  { t with columns := t.columns ++ columns, keys := t.keys ++ keys }

end StoredTable

/-- The tables of a database, in the order of their creation. -/
abbrev Catalog := List StoredTable

namespace Catalog

/-- The table of a name. -/
def table? (cat : Catalog) (name : String) : Option StoredTable := cat.find? (·.name == name)

/-- The names of the tables. -/
def names (cat : Catalog) : List String := cat.map StoredTable.name

/-- The account of the tables in being. -/
def registry (cat : Catalog) : Tables := cat.map StoredTable.entry

end Catalog

namespace Statement

/-- The names of the columns that a statement adds, with the primary key of a new table. -/
def addedNames (s : Statement) : List String :=
  (if s.kind = .create then [primaryKey] else []) ++ s.columns.map Column.name

/-- The table that a statement creates. -/
def created (s : Statement) : StoredTable :=
  { name := s.table
    primary := { name := primaryKey, type := .number }
    columns := s.columns
    keys := s.keys }

/-- Whether a database with these tables accepts a statement. -/
structure Admissible (s : Statement) (cat : Catalog) : Prop where
  /-- A table that is created is not there. -/
  create_absent : s.kind = .create → s.table ∉ cat.names
  /-- A table that is altered is there. -/
  alter_present : s.kind = .alter → s.table ∈ cat.names
  /-- The columns that are added have different names. -/
  added_nodup : s.addedNames.Nodup
  /-- None of them is there. -/
  added_new : ∀ t ∈ cat, t.name = s.table → ∀ name ∈ s.addedNames, name ∉ t.columnNames
  /-- A foreign key is on a column that the statement adds. -/
  key_column : ∀ k ∈ s.keys, k.column ∈ s.columns.map Column.name
  /-- It leads to the primary key of a table that is there, or to the statement's own table. -/
  key_target : ∀ k ∈ s.keys, k.references = s.table ∨
    ∃ t ∈ cat, t.name = k.references ∧ primaryKey ∈ t.columnNames

instance (s : Statement) (cat : Catalog) : Decidable (s.Admissible cat) :=
  decidable_of_iff
    ((s.kind = .create → s.table ∉ cat.names) ∧ (s.kind = .alter → s.table ∈ cat.names) ∧
      s.addedNames.Nodup ∧
      (∀ t ∈ cat, t.name = s.table → ∀ name ∈ s.addedNames, name ∉ t.columnNames) ∧
      (∀ k ∈ s.keys, k.column ∈ s.columns.map Column.name) ∧
      ∀ k ∈ s.keys, k.references = s.table ∨
        ∃ t ∈ cat, t.name = k.references ∧ primaryKey ∈ t.columnNames)
    ⟨fun ⟨h₁, h₂, h₃, h₄, h₅, h₆⟩ => ⟨h₁, h₂, h₃, h₄, h₅, h₆⟩,
      fun ⟨h₁, h₂, h₃, h₄, h₅, h₆⟩ => ⟨h₁, h₂, h₃, h₄, h₅, h₆⟩⟩

/-- The tables after a statement. -/
def apply (s : Statement) (cat : Catalog) : Catalog :=
  match s.kind with
  | .create => cat ++ [s.created]
  | .alter => cat.map fun t => if t.name = s.table then t.extend s.columns s.keys else t

end Statement

/-- The tables after statements, if a database accepts all of them. -/
def Catalog.execute? (cat : Catalog) : List Statement → Option Catalog
  | [] => some cat
  | s :: ss => if s.Admissible cat then execute? (s.apply cat) ss else none

/-! ## Looking up a table -/

namespace Catalog

variable {cat : Catalog} {name : String} {t : StoredTable}

theorem table?_isSome_iff : (cat.table? name).isSome ↔ name ∈ cat.names := by
  simp [table?, names, List.find?_isSome]

theorem table?_eq_none_iff : cat.table? name = none ↔ name ∉ cat.names := by
  rw [← table?_isSome_iff, Option.isSome_iff_ne_none, not_not]

theorem mem_of_table? (h : cat.table? name = some t) : t ∈ cat ∧ t.name = name :=
  ⟨List.mem_of_find?_eq_some h, by simpa using List.find?_some h⟩

/-- Where no two tables share a name, a table is found under its own. -/
theorem table?_of_mem (hnd : cat.names.Nodup) (h : t ∈ cat) : cat.table? t.name = some t :=
  (find?_key_eq_some_iff hnd).mpr ⟨h, rfl⟩

theorem columns?_registry : cat.registry.columns? name =
    (cat.table? name).map StoredTable.columnNames := by
  have hcomp : ((fun u : Table => u.name == name) ∘ StoredTable.entry) =
      fun u : StoredTable => u.name == name := rfl
  rw [Tables.columns?, registry, List.find?_map, hcomp, table?, Option.map_map]
  rfl

theorem columns_registry (h : cat.table? name = some t) :
    cat.registry.columns name = t.columnNames := by
  rw [Tables.columns, columns?_registry, h]
  rfl

end Catalog

/-! ## One statement -/

namespace Statement

variable {s : Statement} {cat : Catalog}

/-- A statement's own table after it. -/
def effect (s : Statement) (t : Option StoredTable) : Option StoredTable :=
  match s.kind with
  | .create => some s.created
  | .alter => t.map (·.extend s.columns s.keys)

/-- A statement changes its own table and no other one. -/
theorem table?_apply (h : s.Admissible cat) (name : String) :
    (s.apply cat).table? name =
      if name = s.table then s.effect (cat.table? name) else cat.table? name := by
  cases hk : s.kind with
  | create =>
    have hnone : cat.table? s.table = none := Catalog.table?_eq_none_iff.mpr (h.create_absent hk)
    have hfind : (s.apply cat).table? name =
        (cat.table? name).or (if name = s.table then some s.created else none) := by
      rw [apply, hk, Catalog.table?, List.find?_append]
      by_cases hn : name = s.table
      · simp [Catalog.table?, created, hn]
      · simp [Catalog.table?, created, hn, Ne.symm hn]
    rw [hfind, effect, hk]
    by_cases hn : name = s.table
    · subst hn
      simp [hnone]
    · simp [hn]
  | alter =>
    have hcomp : ((fun t : StoredTable => t.name == name) ∘
        fun t => if t.name = s.table then t.extend s.columns s.keys else t) =
        fun t => t.name == name := by
      funext t
      by_cases ht : t.name = s.table
      · simp [ht, StoredTable.extend]
      · simp [ht]
    rw [apply, hk, Catalog.table?, List.find?_map, hcomp, effect, hk]
    change (cat.table? name).map _ = _
    by_cases hn : name = s.table
    · rw [if_pos hn]
      refine Option.map_congr fun t ht => ?_
      rw [if_pos ((Catalog.mem_of_table? ht).2.trans hn)]
    · rw [if_neg hn]
      cases ht : cat.table? name with
      | none => rfl
      | some t => simp [(Catalog.mem_of_table? ht).2, hn]

theorem names_apply : (s.apply cat).names =
    cat.names ++ (if s.kind = .create then [s.table] else []) := by
  cases hk : s.kind with
  | create => simp [apply, hk, Catalog.names, created]
  | alter =>
    rw [apply, hk, if_neg (by decide), List.append_nil, Catalog.names, List.map_map]
    refine List.map_congr_left fun t _ => ?_
    by_cases ht : t.name = s.table
    · simp [ht, StoredTable.extend]
    · simp [ht]

/-- An admissible statement keeps the names of tables distinct. -/
theorem nodup_names_apply (h : s.Admissible cat) (hnd : cat.names.Nodup) :
    (s.apply cat).names.Nodup := by
  rw [names_apply]
  cases hk : s.kind with
  | create =>
    rw [if_pos rfl]
    refine List.nodup_append.mpr ⟨hnd, List.nodup_singleton _, ?_⟩
    intro a ha b hb hab
    rw [List.mem_singleton.mp hb] at hab
    exact h.create_absent hk (hab ▸ ha)
  | alter =>
    rw [if_neg (by decide), List.append_nil]
    exact hnd

end Statement

/-! ## Many statements -/

/-- The tables of the statements of a kind, in the order of the statements. -/
def tablesOf (kind : StatementKind) (ss : List Statement) : List String :=
  (ss.filter (·.kind = kind)).map Statement.table

namespace Catalog

variable {cat cat' : Catalog} {ss : List Statement}

theorem execute?_cons {s : Statement} (h : s.Admissible cat) :
    cat.execute? (s :: ss) = (s.apply cat).execute? ss := by
  rw [execute?, if_pos h]

theorem execute?_singleton {s : Statement} (h : s.Admissible cat) :
    cat.execute? [s] = some (s.apply cat) := execute?_cons h

theorem execute?_append (h : cat.execute? ss = some cat') (more : List Statement) :
    cat.execute? (ss ++ more) = cat'.execute? more := by
  induction ss generalizing cat with
  | nil => rw [List.nil_append, Option.some.inj h]
  | cons s ss ih =>
    rw [execute?] at h
    split at h
    · next hs => rw [List.cons_append, execute?_cons hs, ih h]
    · exact absurd h (by simp)

/-- Statements leave the tables that were there and those that they create. -/
theorem names_execute? (h : cat.execute? ss = some cat') :
    cat'.names = cat.names ++ tablesOf .create ss := by
  induction ss generalizing cat with
  | nil => rw [← Option.some.inj h, tablesOf, List.filter_nil, List.map_nil, List.append_nil]
  | cons s ss ih =>
    rw [execute?] at h
    split at h
    · rw [ih h, Statement.names_apply, tablesOf, tablesOf, List.append_assoc, List.filter_cons]
      by_cases hk : s.kind = .create <;> simp [hk]
    · exact absurd h (by simp)

end Catalog

end Blueprint.Schema

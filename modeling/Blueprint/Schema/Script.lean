import Blueprint.Journal
import Blueprint.Model
import Blueprint.Naming
import Blueprint.Schema.Statement
import Blueprint.Schema.Tables

/-!
# Schema scripts

The statements that give every class of a model a table. Classes are taken in order. A table that a
class refers to and that does not exist yet is created with nothing but its primary key; then the
class's own table is created, or added to if a class before it needed it.

A class has a column for every attribute whose type has one, and a column with a foreign key for
every association that leaves it and whose kind has one. A name that is taken is numbered.
-/

namespace Blueprint.Schema

/-- A part of a script: the tables after it, its statements, and what was noted. -/
structure Script where
  /-- The tables. -/
  tables : Tables
  /-- The statements. -/
  statements : List Statement := []
  /-- What was noted. -/
  journal : Journal := []
  deriving DecidableEq, Repr

/-- A script that goes on after another one. -/
def Script.after (before after : Script) : Script :=
  { tables := after.tables
    statements := before.statements ++ after.statements
    journal := before.journal ++ after.journal }

/-! ## Columns -/

/-- The note that a column got another name than the wanted one. -/
def columnRenamed (table wanted name : String) : List Diagnostic :=
  if name = wanted then []
  else
    [.info ("column " ++ wanted ++ " renamed to " ++ name) (some { className := table })]

/-- The warning that an attribute has no column. -/
def noColumn (table : String) (a : Attribute) : Diagnostic :=
  .warning ("attribute " ++ a.name ++ " has unmapped type " ++ a.type ++ ", no column generated")
    (some { className := table })

/-- The columns for attributes of a class, in a table whose columns are `taken`. -/
def attributeColumns (table : String) (taken : List String) :
    List Attribute → List Column × List Diagnostic
  | [] => ([], [])
  | a :: as =>
    match ColumnType.ofAttributeType? a.type with
    | none =>
      let rest := attributeColumns table taken as
      (rest.1, noColumn table a :: rest.2)
    | some type =>
      let name := freshName a.name "_" taken
      let rest := attributeColumns table (taken ++ [name]) as
      ({ name, type } :: rest.1, columnRenamed table a.name name ++ rest.2)

/-- A foreign key that is wanted: the table it leads to and what it says on deletion. -/
structure Reference where
  /-- The table. -/
  table : String
  /-- What it says on deletion. -/
  onDelete : OnDelete
  deriving DecidableEq, Repr

/-- The wanted name of the column of a reference. -/
def Reference.column (r : Reference) : String := "id_" ++ r.table

/-- The foreign keys for references of a class, in a table whose columns are `taken`. -/
def foreignKeys (table : String) (taken : List String) :
    List Reference → List ForeignKey × List Diagnostic
  | [] => ([], [])
  | r :: rs =>
    let name := freshName r.column "_" taken
    let rest := foreignKeys table (taken ++ [name]) rs
    ({ column := name, references := r.table, onDelete := r.onDelete } :: rest.1,
      columnRenamed table r.column name ++ rest.2)

/-! ## Tables -/

/-- The reference of an association, if its kind has a foreign key. -/
def reference? (a : Association) : Option Reference :=
  (OnDelete.ofKind? a.kind).map fun onDelete => { table := a.arrival, onDelete }

/-- Makes a table with its primary key. -/
def createTable (ts : Tables) (table : String) : Tables := ts.addColumn table primaryKey

/-- Creates the tables that associations of a class need and that are not there. -/
def createArrivals (table : String) (ts : Tables) : List Association → Script
  | [] => { tables := ts }
  | a :: as =>
    match reference? a with
    | none =>
      let noted : Script :=
        { tables := ts, journal := [.event (.keyless a.departure a.arrival)] }
      noted.after (createArrivals table ts as)
    | some _ =>
      if a.arrival ≠ table ∧ !ts.isCreated a.arrival then
        let created := createTable ts a.arrival
        let made : Script :=
          { tables := created
            statements := [{ kind := .create, table := a.arrival }]
            journal := [.event (.tableAhead a.arrival)] }
        made.after (createArrivals table created as)
      else createArrivals table ts as

/-- Creates the table of a class, or adds to it. -/
def ownTable (c : ClassDecl) (references : List Reference) (ts : Tables) : Script :=
  let kind : StatementKind := if ts.isCreated c.name then .alter else .create
  let ts := if ts.isCreated c.name then ts else createTable ts c.name
  let taken := ts.columns c.name
  let (columns, columnNotes) := attributeColumns c.name taken c.attributes
  let (keys, keyNotes) := foreignKeys c.name (taken ++ columns.map Column.name) references
  let keyColumns := keys.map fun k => { name := k.column, type := .number }
  let added := columns ++ keyColumns
  let noted := Journal.ofDiagnostics (columnNotes ++ keyNotes)
  if kind = .alter ∧ added.isEmpty then
    { tables := ts, journal := noted ++ [.event (.nothingAdded c.name)] }
  else
    { tables := ts.addColumns c.name (added.map Column.name)
      statements := [{ kind, table := c.name, columns := added, keys }]
      journal := noted }

/-- The part of a class in a script. -/
def scriptOfClass (m : Model) (ts : Tables) (c : ClassDecl) : Script :=
  let leaving := m.departing c.name
  let arrivals := createArrivals c.name ts leaving
  arrivals.after (ownTable c (leaving.filterMap reference?) arrivals.tables)

/-- The parts of classes in a script. -/
def scriptOfClasses (m : Model) (ts : Tables) : List ClassDecl → Script
  | [] => { tables := ts }
  | c :: cs =>
    let own := scriptOfClass m ts c
    own.after (scriptOfClasses m own.tables cs)

/-- The script of a model, after tables that are there. -/
def script (m : Model) (ts : Tables) : Script :=
  let s := scriptOfClasses m ts m.classes
  let done : Entry := .event (.schemaMade s.statements.length s.tables.length)
  { s with journal := .within (.schema m.classes.length) (s.journal ++ [done]) }

end Blueprint.Schema

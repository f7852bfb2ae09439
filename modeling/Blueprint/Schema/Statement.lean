import Blueprint.Config
import Blueprint.Relation
import Blueprint.Text.Blank

/-!
# Statements of a schema

A statement creates a table or adds to one. A table that is created starts with its primary key; a
statement then adds columns, and foreign keys from some of these to primary keys of tables.
-/

namespace Blueprint.Schema

/-- The primary key of every table. -/
def primaryKey : String := "ID"

/-- The type of a column. -/
inductive ColumnType where
  /-- Text. -/
  | varchar
  /-- A number. -/
  | number
  /-- A truth value. -/
  | boolean
  /-- A floating-point number. -/
  | float
  deriving DecidableEq, Repr

namespace ColumnType

/-- The keyword of a type. -/
def keyword : ColumnType → String
  | varchar => "VARCHAR"
  | number => "NUMBER"
  | boolean => "BOOLEAN"
  | float => "FLOAT"

/-- The type of the column for an attribute, if its type has one. -/
def ofAttributeType? (type : String) : Option ColumnType :=
  let t := Text.trim type
  if t = "String" then some .varchar
  else if t = "int" ∨ t = "long" then some .number
  else if t = "boolean" then some .boolean
  else if t = "float" ∨ t = "double" then some .float
  else none

end ColumnType

/-- What becomes of a row when the row that it refers to is deleted. -/
inductive OnDelete where
  /-- Nothing is said. -/
  | unstated
  /-- The reference is cleared. -/
  | setNull
  /-- It is deleted as well. -/
  | cascade
  deriving DecidableEq, Repr

namespace OnDelete

/-- The end of a foreign key. -/
def clause : OnDelete → String
  | unstated => ""
  | setNull => " ON DELETE SET NULL"
  | cascade => " ON DELETE CASCADE"

/-- What the foreign key of an association says, if associations of its kind have one. -/
def ofKind? : RelationKind → Option OnDelete
  | .generalization => some unstated
  | .aggregation => some setNull
  | .composition => some cascade
  | .other => none

end OnDelete

/-- A column. -/
structure Column where
  /-- The name. -/
  name : String
  /-- The type. -/
  type : ColumnType
  deriving DecidableEq, Repr

/-- A column in words. -/
def Column.text (c : Column) : String := c.name ++ " " ++ c.type.keyword

/-- A reference from a column to the primary key of a table. -/
structure ForeignKey where
  /-- The column. -/
  column : String
  /-- The table. -/
  references : String
  /-- What it says on deletion. -/
  onDelete : OnDelete
  deriving DecidableEq, Repr

/-- A foreign key in words. -/
def ForeignKey.text (k : ForeignKey) : String :=
  "FOREIGN KEY (" ++ k.column ++ ") REFERENCES " ++ k.references ++ "(" ++ primaryKey ++ ")" ++
    k.onDelete.clause

/-- What a statement does to its table. -/
inductive StatementKind where
  /-- Creates it, with its primary key. -/
  | create
  /-- Adds to it. -/
  | alter
  deriving DecidableEq, Repr

/-- A statement. -/
structure Statement where
  /-- What it does. -/
  kind : StatementKind
  /-- The table. -/
  table : String
  /-- The columns that it adds, the primary key apart. -/
  columns : List Column := []
  /-- The foreign keys that it adds. -/
  keys : List ForeignKey := []
  deriving DecidableEq, Repr

namespace Statement

/-- What a statement adds to its table, in words. -/
def entries (s : Statement) : List String :=
  (if s.kind = .create then [primaryKey ++ " NUMBER PRIMARY KEY"] else []) ++
    s.columns.map Column.text ++ s.keys.map ForeignKey.text

/-- What a statement starts with. -/
def head (s : Statement) : String :=
  match s.kind with
  | .create => "CREATE TABLE " ++ s.table ++ " ("
  | .alter => "ALTER TABLE " ++ s.table ++ " ADD ("

/-- A statement in words, each entry on a line of its own. -/
def render (indentation : String) (s : Statement) : String :=
  s.head ++ "\n" ++ ",\n".intercalate (s.entries.map (indentation ++ ·)) ++ "\n);"

end Statement

/-- Statements in words, with a blank line between them. -/
def render (config : Config) (statements : List Statement) : String :=
  if statements.isEmpty then ""
  else "\n\n".intercalate (statements.map (Statement.render (config.indentation 1))) ++ "\n"

end Blueprint.Schema

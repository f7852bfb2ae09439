/-!
# Tables in being

The tables that a schema has created, and the names of their columns.
-/

namespace Blueprint.Schema

/-- A table and its columns. -/
structure Table where
  /-- The name. -/
  name : String
  /-- The names of its columns. -/
  columns : List String := []
  deriving DecidableEq, Repr

/-- Tables in the order of their creation, no two of one name. -/
abbrev Tables := List Table

namespace Tables

/-- The columns of a table, if it is there. -/
def columns? (ts : Tables) (table : String) : Option (List String) :=
  (ts.find? (·.name == table)).map (·.columns)

/-- Whether a table is there. -/
def isCreated (ts : Tables) (table : String) : Bool := (columns? ts table).isSome

/-- The columns of a table, none if it is not there. -/
def columns (ts : Tables) (table : String) : List String := (columns? ts table).getD []

/-- Whether a table has a column. -/
def hasColumn (ts : Tables) (table column : String) : Bool := column ∈ columns ts table

/-- Makes a table that is not there, without columns. -/
def create (ts : Tables) (table : String) : Tables :=
  if isCreated ts table then ts else ts ++ [{ name := table }]

/-- Adds a column to a table, which is made if it is not there. -/
def addColumn (ts : Tables) (table column : String) : Tables :=
  (create ts table).map fun t =>
    if t.name = table ∧ column ∉ t.columns then { t with columns := t.columns ++ [column] } else t

/-- Adds columns to a table. -/
def addColumns (ts : Tables) (table : String) (names : List String) : Tables :=
  names.foldl (addColumn · table) ts

end Tables

end Blueprint.Schema

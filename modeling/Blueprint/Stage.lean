/-!
# Stages

A run reads a diagram, writes a schema and writes class sources. Each stage tells its name, its
version and, if it writes files, their format.
-/

namespace Blueprint

/-- The version of the program and of its stages. -/
def versionText : String := "0.1.0"

/-- A stage of a run. -/
structure Stage where
  /-- The name. -/
  name : String
  /-- The version. -/
  version : String := versionText
  /-- The format of the files it writes, if it writes any. -/
  format : Option String := none
  deriving DecidableEq, Repr

namespace Stage

/-- Reading a diagram. -/
def reading : Stage := { name := "jetuml" }

/-- Writing a schema. -/
def schema : Stage := { name := "schema", format := some "sql" }

/-- Writing class sources. -/
def sources : Stage := { name := "java", format := some "java" }

end Stage

end Blueprint

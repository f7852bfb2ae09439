import Blueprint.Model.Reading
import Blueprint.Schema.Script
import Blueprint.Skeleton.Source

/-!
# Artifacts

A whole run: a text is read into a model, and the model is turned into a schema and class sources.
Any failure ends the run. What the parts note is kept in one journal, in order.
-/

namespace Blueprint

/-- What a run makes. -/
structure Artifacts where
  /-- The schema. -/
  schema : String
  /-- The class sources. -/
  sources : List Skeleton.SourceFile
  /-- The diagnostics. -/
  diagnostics : List Diagnostic
  deriving DecidableEq, Repr

namespace Artifacts

/-- The name of the file of a schema. -/
def schemaFileName (schemaName : String) : String := schemaName ++ ".sql"

/-- The artifacts of a model, after some diagnostics. -/
def ofModelAfter (config : Config) (before : List Diagnostic) (m : Model) :
    Journal × Except Failure Artifacts :=
  let script := Schema.script m []
  let sources := Skeleton.files config m
  let noted := script.journal ++ sources.1
  match sources.2 with
  | .error f => (noted, .error f)
  | .ok files =>
    let schema := Schema.render config script.statements
    let diagnostics := before ++ Journal.diagnostics noted
    let done : Entry :=
      .event (.runFinished files.length schema.utf8ByteSize diagnostics.length)
    (noted ++ [done], .ok { schema, sources := files, diagnostics })

/-- The artifacts of a model. -/
def ofModel (config : Config) (m : Model) : Journal × Except Failure Artifacts :=
  ofModelAfter config [] m

/-- The artifacts of a reading, and all that was noted. -/
def ofReading (config : Config) (r : Reading) : Journal × Except Failure Artifacts :=
  match r.failure with
  | some f => (r.journal, .error f)
  | none =>
    let read : Entry := .event (.modelRead r.model.classes.length r.model.associations.length)
    let made := ofModelAfter config (Journal.diagnostics r.journal) r.model
    (r.journal ++ read :: made.1, made.2)

/-- The artifacts of a text. -/
def ofText (config : Config) (text : String) : Journal × Except Failure Artifacts :=
  let made := ofReading config (Model.readText {} text)
  (.within (.generation text.utf8ByteSize) (.event .runStarted :: made.1), made.2)

end Artifacts

end Blueprint

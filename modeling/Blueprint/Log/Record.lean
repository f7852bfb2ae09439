import Blueprint.Journal

/-!
# Log records

What a log says about the events and scopes of a journal: a level, the part of the program it comes
from, a message and named values.
-/

namespace Blueprint.Log

/-- How much a record matters. -/
inductive Level where
  /-- Every step. -/
  | trace
  /-- The outcome of every stage. -/
  | debug
  /-- The course of the run. -/
  | info
  /-- A loss. -/
  | warn
  /-- A failure. -/
  | error
  deriving DecidableEq, Repr

namespace Level

/-- The name of a level. -/
def name : Level → String
  | trace => "TRACE"
  | debug => "DEBUG"
  | info => "INFO"
  | warn => "WARN"
  | error => "ERROR"

/-- How detailed a log must be to show a level. -/
def detail : Level → Nat
  | error => 1
  | warn => 2
  | info => 3
  | debug => 4
  | trace => 5

end Level

/-- A named value. -/
inductive Datum where
  /-- A number. -/
  | nat (n : Nat)
  /-- A text that is shown as it is. -/
  | plain (s : String)
  /-- A text that is shown in quotation marks. -/
  | quoted (s : String)
  deriving DecidableEq, Repr

/-- The parts of the program, as a log names them. -/
inductive Origin where
  /-- The command line. -/
  | command
  /-- The run as a whole. -/
  | run
  /-- Reading descriptions. -/
  | reading
  /-- Recording diagnostics. -/
  | diagnostics
  /-- Writing schemas. -/
  | schema
  /-- Writing class sources. -/
  | sources
  deriving DecidableEq, Repr

/-- The name of a part of the program. -/
def Origin.name : Origin → String
  | command => "umlforge::cli"
  | run => "umlforge::plugins::orchestrator"
  | reading => "umlforge::plugins::jetuml::parser"
  | diagnostics => "umlforge::core::diagnostics"
  | schema => "umlforge::plugins::schema::synthesizer"
  | sources => "umlforge::plugins::java::synthesizer"

/-- A record. -/
structure Record where
  /-- How much it matters. -/
  level : Level
  /-- Where it comes from. -/
  origin : Origin
  /-- What it says. -/
  message : String
  /-- Named values. -/
  data : List (String × Datum) := []
  deriving DecidableEq, Repr

/-- The name of the field that holds the message of a record. -/
def messageName : String := "message"

/-- Whether a record has a field of a name. -/
def Record.hasField (r : Record) (name : String) : Bool :=
  name == messageName || (r.data.lookup name).isSome

/-- A scope as a log names it. -/
structure Span where
  /-- Where it comes from. -/
  origin : Origin
  /-- The name. -/
  name : String
  /-- Named values. -/
  data : List (String × Datum)
  deriving DecidableEq, Repr

/-- The level of scopes. -/
def spanLevel : Level := .info

/-- What a log says about a scope. -/
def span : Scope → Span
  | .generation inputLength => ⟨.run, "generate", [("input_len", .nat inputLength)]⟩
  | .reading nodes edges => ⟨.reading, "normalize", [("nodes", .nat nodes), ("edges", .nat edges)]⟩
  | .schema classes => ⟨.schema, "synthesize_schema", [("classes", .nat classes)]⟩
  | .sources classes => ⟨.sources, "synthesize_sources", [("classes", .nat classes)]⟩

/-- What a log says about an event. -/
def record : Event → Record
  | .inputRead source bytes =>
    ⟨.debug, .command, "Read input", [("source", .plain source), ("bytes", .nat bytes)]⟩
  | .runStarted => ⟨.info, .run, "Starting generation pipeline", []⟩
  | .classRead name attributes methods =>
    ⟨.trace, .reading, "Parsed class",
      [("class", .plain name), ("attributes", .nat attributes), ("methods", .nat methods)]⟩
  | .classesRead classes =>
    ⟨.debug, .reading, "Classes normalized", [("class_count", .nat classes)]⟩
  | .associationRead kind departure arrival multiplicity =>
    ⟨.trace, .reading, "Resolved association",
      [("kind", .plain kind.name), ("departure", .plain departure), ("arrival", .plain arrival),
        ("multiplicity", .plain multiplicity.label)]⟩
  | .associationsRead associations diagnostics =>
    ⟨.debug, .reading, "Associations normalized",
      [("association_count", .nat associations), ("diagnostics", .nat diagnostics)]⟩
  | .modelRead classes associations =>
    ⟨.debug, .run, "Model normalized",
      [("classes", .nat classes), ("associations", .nat associations)]⟩
  | .keyless departure arrival =>
    ⟨.trace, .schema, "Association kind has no foreign key",
      [("departure", .plain departure), ("arrival", .plain arrival)]⟩
  | .tableAhead table => ⟨.trace, .schema, "Creating arrival table", [("table", .quoted table)]⟩
  | .nothingAdded table => ⟨.trace, .schema, "Nothing to add", [("table", .quoted table)]⟩
  | .schemaMade statements tables =>
    ⟨.debug, .schema, "Schema synthesized",
      [("statements", .nat statements), ("tables", .nat tables)]⟩
  | .sourceMade name fields parameters =>
    ⟨.trace, .sources, "Rendered class",
      [("class", .plain name), ("fields", .nat fields), ("parameters", .nat parameters)]⟩
  | .sourcesMade sources => ⟨.debug, .sources, "Sources synthesized", [("sources", .nat sources)]⟩
  | .runFinished sources schemaLength diagnostics =>
    ⟨.info, .run, "Pipeline completed successfully",
      [("sources", .nat sources), ("schema_len", .nat schemaLength),
        ("diagnostics", .nat diagnostics)]⟩
  | .artifactsWritten files directory =>
    ⟨.info, .run, "Artifacts written", [("files", .nat files), ("dir", .plain directory)]⟩
  | .fileWritten path => ⟨.debug, .command, "Wrote file", [("path", .plain path)]⟩
  | .commandFinished sources diagnostics =>
    ⟨.info, .command, "Generate command finished",
      [("sources", .nat sources), ("diagnostics", .nat diagnostics)]⟩

/-- What a log says about a diagnostic. -/
def diagnosticRecord (d : Diagnostic) : Record :=
  ⟨if d.isWarning then .warn else .info, .diagnostics, "Diagnostic",
    [("diagnostic", .plain d.text)]⟩

end Blueprint.Log

import Blueprint.Artifacts
import Blueprint.Command.Arguments
import Blueprint.Host.Directories
import Blueprint.Model.Json
import Blueprint.Outline
import Blueprint.Path
import Blueprint.Stage
import Blueprint.Text.Utf8

/-!
# Running commands

Each command reads its input, works on it, and tells what came of it. Log lines, diagnostics and
messages are printed beside the result, in the order in which they arise.
-/

namespace Blueprint

variable {m : Type → Type} [Monad m] [Host m]

/-! ## Files of artifacts -/

/-- The files of artifacts in a directory, class sources first. -/
def Artifacts.files (a : Artifacts) (directory schemaName : String) : List (String × String) :=
  a.sources.map (fun s => (Path.join directory s.fileName, s.text)) ++
    [(Path.join directory (Artifacts.schemaFileName schemaName), a.schema)]

/-- Writes files, up to the first that cannot be written. -/
def writeFiles : List (String × String) → m (Except OsError Unit)
  | [] => pure (.ok ())
  | (path, text) :: more => do
    match ← Host.writeFile path text with
    | .error e => pure (.error e)
    | .ok () => writeFiles more

/-- Writes artifacts to a directory, which is made if it is not there. -/
def Artifacts.write (a : Artifacts) (directory schemaName : String) :
    m (Except Failure (List String)) := do
  match ← createDirectories directory with
  | .error e => pure (.error (.io e))
  | .ok () =>
    let files := a.files directory schemaName
    match ← writeFiles files with
    | .error e => pure (.error (.io e))
    | .ok () => pure (.ok (files.map (·.1)))

namespace Command

/-- The name of the program. -/
def programName : String := "umlforge"

/-! ## Names -/

/-- The schema name of an input that has none. -/
def defaultSchemaName : String := "schema"

/-- What is taken off the name of an input file. -/
def inputEndings : List String := [".class.jet", ".json"]

/-- The schema name of an input, after the name of its file. -/
def schemaNameOf (input : Option String) : String :=
  match (input.filter (· ≠ "-")).bind Path.fileName? with
  | none => defaultSchemaName
  | some name =>
    match inputEndings.findSome? (Text.dropEnding? · name) with
    | some stem => if stem = "" then name else stem
    | none => name

/-- The directory for a schema name. -/
def outputDirectoryOf (schemaName : String) : String := "Diagram_" ++ schemaName

/-! ## Logs -/

/-- The filter for a level given as an option, or else by the environment. -/
def filterOf (level : Option String) (environment : String → Option String) : Log.Filter :=
  let text := (level.or (environment "UMLFORGE_LOG_LEVEL")).or (environment "RUST_LOG")
  (text.bind Log.Filter.ofText?).getD (.ofLevel .info)

/-- The settings of the log, or why there is none. -/
def logSettings (level format : Option String) (environment : String → Option String) :
    Except String Log.Settings :=
  match Log.Format.ofText
      ((format.or (environment "UMLFORGE_LOG_FORMAT")).getD Log.Format.compact.name) with
  | .ok format => .ok { format, filter := filterOf level environment }
  | .error complaint => .error ("Invalid log format: " ++ complaint)

/-! ## Commands -/

/-- What commands share. -/
structure Setting where
  /-- The settings of the log. -/
  log : Log.Settings
  /-- Whether the program tells what it does. -/
  verbose : Bool
  deriving DecidableEq, Repr

/-- Prints a line beside the result. -/
def say (line : String) : m Unit := Host.print (.message line)

/-- Prints a line of the result. -/
def answer (line : String) : m Unit := Host.print (.result line)

/-- Prints what a log shows of a journal. -/
def logJournal (s : Setting) (j : Journal) : m Unit := (s.log.lines j).forM Host.print

/-- Prints a line if the program tells what it does. -/
def tell (s : Setting) (line : String) : m Unit := if s.verbose then say line else pure ()

/-- Prints diagnostics. -/
def report (ds : List Diagnostic) : m Unit := ds.forM fun d => say d.text

/-- Reads the input of a command: a file, or the input of the program for none or a dash. Fails with
a message. -/
def readInput (s : Setting) (input : Option String) : m (Except String String) := do
  let decoded (bytes : List UInt8) : Except OsError String :=
    match Text.decode? bytes with
    | some text => .ok text
    | none => .error .notUtf8
  let content ← match input.filter (· ≠ "-") with
    | some path => do
      let bytes ← Host.readFile path
      pure ((bytes.bind decoded).mapError fun e =>
        "Failed to read input file '" ++ path ++ "': " ++ e.message)
    | none => do
      let bytes ← Host.readInput
      pure ((bytes.bind decoded).mapError OsError.message)
  match content with
  | .error e => pure (.error e)
  | .ok text =>
    logJournal s [.event (.inputRead (input.getD "-") text.utf8ByteSize)]
    tell s ("Read " ++ toString text.utf8ByteSize ++ " bytes of input")
    pure (.ok text)

/-- Writes the artifacts of a diagram. -/
def generate (s : Setting) (input outputDirectory package schemaName : Option String)
    (indent : Option Nat) : m (Except String Unit) := do
  match ← readInput s input with
  | .error e => pure (.error e)
  | .ok text =>
    let plain : Config := { indent := indent.getD 4 }
    let config := match package with
      | some name => plain.withPackage name
      | none => plain
    let name := schemaName.getD (schemaNameOf input)
    let directory := outputDirectory.getD (outputDirectoryOf name)
    let (j, made) := Artifacts.ofText config text
    logJournal s j
    match made with
    | .error f => pure (.error f.message)
    | .ok a =>
      report a.diagnostics
      match ← a.write directory name with
      | .error f => pure (.error f.message)
      | .ok paths =>
        logJournal s [.event (.artifactsWritten paths.length directory)]
        for path in paths do
          logJournal s [.event (.fileWritten path)]
          tell s ("Wrote " ++ path)
        logJournal s [.event (.commandFinished a.sources.length a.diagnostics.length)]
        answer ("Generated " ++ toString a.sources.length ++ " class source(s) and " ++
          Artifacts.schemaFileName name ++ " in " ++ directory)
        pure (.ok ())

/-- Makes the artifacts of a diagram without writing them. -/
def validate (s : Setting) (input : Option String) : m (Except String Unit) := do
  match ← readInput s input with
  | .error e => pure (.error e)
  | .ok text =>
    let (j, made) := Artifacts.ofText {} text
    logJournal s j
    match made with
    | .error f =>
      answer ("✗ Invalid class diagram: " ++ f.message)
      pure (.error f.message)
    | .ok a =>
      report a.diagnostics
      answer ("✓ Valid class diagram: " ++ toString a.sources.length ++ " class(es), " ++
        toString (a.diagnostics.filter Diagnostic.isWarning).length ++ " warning(s)")
      pure (.ok ())

/-- Prints the model of a diagram. -/
def inspect (s : Setting) (input : Option String) (json : Bool) : m (Except String Unit) := do
  match ← readInput s input with
  | .error e => pure (.error e)
  | .ok text =>
    let r := Model.readText {} text
    logJournal s r.journal
    match r.failure with
    | some f => pure (.error f.message)
    | none =>
      let ds := Journal.diagnostics r.journal
      if json then answer (inspectionJson r.model ds).pretty
      else
        report ds
        Host.print (.text r.model.outline)
      pure (.ok ())

/-- Carries out a command. -/
def perform (s : Setting) : Action → m (Except String Unit)
  | .generate input outputDirectory package schemaName indent =>
    generate s input outputDirectory package schemaName indent
  | .validate input => validate s input
  | .inspect input json => inspect s input json

/-- Carries out a request and gives the exit code. -/
def carryOut (environment : String → Option String) (r : Request) : m Nat := do
  let log ← match logSettings r.logLevel r.logFormat environment with
    | .ok log => pure log
    | .error e => do
      say ("Warning: Failed to initialize logging: " ++ e)
      pure {}
  let s : Setting := { log, verbose := r.verbose }
  tell s (programName ++ " v" ++ versionText)
  match ← perform s r.action with
  | .ok () => pure 0
  | .error e => do
    say ("Error: " ++ e)
    pure 1

/-- Runs the program with arguments and gives the exit code. -/
def run (environment : String → Option String) (arguments : List String) : m Nat := do
  match readArguments arguments with
  | .error e => do
    say ("error: " ++ e.message)
    pure 2
  | .ok .version => do
    answer (programName ++ " " ++ versionText)
    pure 0
  | .ok (.request r) => carryOut environment r

end Command

end Blueprint

import Blueprint.Artifacts
import Blueprint.Outline

/-!
# Sessions

One model that is changed and asked step by step, with the tables that its schemas have created and
the diagnostics of all steps. A step that fails does not end the session, and what it did before it
failed stays done.
-/

namespace Blueprint

/-- What a session keeps from step to step. -/
structure Session where
  /-- The model. -/
  model : Model := {}
  /-- The tables that schemas have created. -/
  tables : Schema.Tables := []
  /-- The diagnostics. -/
  diagnostics : List Diagnostic := []
  /-- Settings of the output. -/
  config : Config := {}
  deriving DecidableEq, Repr

/-- A step of a session. -/
inductive Step where
  /-- Reads a text into the model. -/
  | readText (text : String)
  /-- Adds a class. -/
  | addClass (c : ClassDecl)
  /-- Adds an association. -/
  | addAssociation (a : Association)
  /-- Adds an attribute to a class. -/
  | addAttribute (className : String) (a : Attribute)
  /-- Adds a method to a class. -/
  | addMethod (className : String) (m : Method)
  /-- Says which class a class extends. -/
  | setSuperclass (className : String) (superclass : Option String)
  /-- Gives a class another name. Nothing else is changed. -/
  | renameClass (className newName : String)
  /-- Asks for a class. -/
  | askClass (className : String)
  /-- Asks for the class that a class extends. -/
  | askSuperclass (className : String)
  /-- Asks for the associations that leave a class. -/
  | askDeparting (className : String)
  /-- Asks for the model. -/
  | askModel
  /-- Asks for the model in words. -/
  | askOutline
  /-- Empties the model. -/
  | clear
  /-- Writes the schema of the model, after the tables that are there. -/
  | writeSchema
  /-- Writes the class sources of the model. -/
  | writeSources
  /-- Writes the source of a class. -/
  | writeSource (className : String)
  /-- Asks for the fields for the associations of a class. -/
  | askFields (className : String)
  /-- Asks for the constructor of a class. -/
  | askConstructor (className : String)
  /-- Makes artifacts of the model, apart from the session's tables and diagnostics. -/
  | generate
  /-- Sets the settings. -/
  | configure (config : Config)
  /-- Forgets tables and diagnostics. -/
  | reset
  /-- Makes a table without columns. -/
  | createTable (table : String)
  /-- Asks whether a table is there. -/
  | askTable (table : String)
  /-- Adds a column to a table. -/
  | addColumn (table column : String)
  /-- Asks whether a table has a column. -/
  | askColumn (table column : String)
  /-- Records a diagnostic. -/
  | record (d : Diagnostic)
  /-- Asks for the diagnostics. -/
  | askDiagnostics
  /-- Asks for the warnings among the diagnostics. -/
  | askWarnings
  deriving DecidableEq, Repr

/-- The answer to a step. -/
inductive Reply where
  /-- The step is done. -/
  | done
  /-- The step failed. -/
  | failed (f : Failure)
  /-- There is no such class. -/
  | absent
  /-- A class. -/
  | classDecl (c : ClassDecl)
  /-- The name of a class, if there is one. -/
  | name (n : Option String)
  /-- Associations. -/
  | associations (as : List Association)
  /-- A model. -/
  | model (m : Model)
  /-- A text. -/
  | text (s : String)
  /-- Class sources. -/
  | sources (fs : List Skeleton.SourceFile)
  /-- A class source. -/
  | source (f : Skeleton.SourceFile)
  /-- Fields. -/
  | fields (fs : List Skeleton.Field)
  /-- A constructor. -/
  | creation (k : Skeleton.Constructor)
  /-- Artifacts. -/
  | artifacts (a : Artifacts)
  /-- Yes or no. -/
  | flag (b : Bool)
  /-- Diagnostics. -/
  | diagnostics (ds : List Diagnostic)
  deriving DecidableEq, Repr

namespace Session

/-- Records the diagnostics of a journal. -/
def note (s : Session) (j : Journal) : Session :=
  { s with diagnostics := s.diagnostics ++ Journal.diagnostics j }

/-- Changes the model by an operation that may fail. -/
def change (s : Session) (result : Except Failure Model) : Session × Reply :=
  match result with
  | .ok model => ({ s with model }, .done)
  | .error f => (s, .failed f)

/-- Answers with something about a class. -/
def about (s : Session) (className : String) (reply : ClassDecl → Reply) : Session × Reply :=
  match s.model.class? className with
  | some c => (s, reply c)
  | none => (s, .absent)

/-- Changes a class and answers with it. -/
def changeClass (s : Session) (className : String) (f : ClassDecl → ClassDecl) :
    Session × Reply :=
  match s.model.class? className with
  | some c => ({ s with model := s.model.modifyClass className f }, .classDecl (f c))
  | none => (s, .absent)

/-- The answer that a result gives. -/
def replyOf {α : Type} (reply : α → Reply) : Except Failure α → Reply
  | .ok a => reply a
  | .error f => .failed f

/-- Takes a step. -/
def step (s : Session) : Step → Session × Reply
  | .readText text =>
    let r := s.model.readText text
    (({ s with model := r.model } : Session).note r.journal,
      (r.failure.map Reply.failed).getD .done)
  | .addClass c => s.change (s.model.addClass c)
  | .addAssociation a => s.change (s.model.addAssociation a)
  | .addAttribute className a =>
    s.changeClass className fun c => { c with attributes := c.attributes ++ [a] }
  | .addMethod className m =>
    s.changeClass className fun c => { c with methods := c.methods ++ [m] }
  | .setSuperclass className superclass =>
    s.changeClass className fun c => { c with superclass }
  | .renameClass className newName => s.changeClass className fun c => { c with name := newName }
  | .askClass className => s.about className .classDecl
  | .askSuperclass className =>
    s.about className fun c => .name ((s.model.superclassOf c).map ClassDecl.name)
  | .askDeparting className => (s, .associations (s.model.departing className))
  | .askModel => (s, .model s.model)
  | .askOutline => (s, .text s.model.outline)
  | .clear => ({ s with model := {} }, .done)
  | .writeSchema =>
    let script := Schema.script s.model s.tables
    (({ s with tables := script.tables } : Session).note script.journal,
      .text (Schema.render s.config script.statements))
  | .writeSources =>
    let (j, result) := Skeleton.files s.config s.model
    (s.note j, replyOf .sources result)
  | .writeSource className =>
    match s.model.class? className with
    | some c =>
      let (j, result) := Skeleton.fileOfClass s.config s.model c
      (s.note j, replyOf .source result)
    | none => (s, .absent)
  | .askFields className => s.about className fun c => .fields (Skeleton.fields s.model c)
  | .askConstructor className =>
    s.about className fun c =>
      replyOf .creation (Skeleton.Constructor.ofClass s.model c (Skeleton.fields s.model c))
  | .generate => (s, replyOf .artifacts (Artifacts.ofModel s.config s.model).2)
  | .configure config => ({ s with config }, .done)
  | .reset => ({ s with tables := [], diagnostics := [] }, .done)
  | .createTable table =>
    ({ s with tables := s.tables.create table }, .flag (!s.tables.isCreated table))
  | .askTable table => (s, .flag (s.tables.isCreated table))
  | .addColumn table column => ({ s with tables := s.tables.addColumn table column }, .done)
  | .askColumn table column => (s, .flag (s.tables.hasColumn table column))
  | .record d => ({ s with diagnostics := s.diagnostics ++ [d] }, .done)
  | .askDiagnostics => (s, .diagnostics s.diagnostics)
  | .askWarnings => (s, .diagnostics (s.diagnostics.filter Diagnostic.isWarning))

/-- Takes steps one after another. -/
def steps (s : Session) : List Step → Session × List (Reply × Session)
  | [] => (s, [])
  | t :: ts =>
    let (next, reply) := s.step t
    let (last, rest) := next.steps ts
    (last, (reply, next) :: rest)

end Session

end Blueprint

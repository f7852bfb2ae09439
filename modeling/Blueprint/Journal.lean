import Blueprint.Diagnostic
import Blueprint.Relation

/-!
# Journals

What a run notes as it goes, in order: the diagnostics, the events that only a log shows, and the
scopes that both lie in. A scope is left on every way out of it.
-/

namespace Blueprint

/-- A part of a run. -/
inductive Scope where
  /-- A whole run on a text of so many bytes. -/
  | generation (inputLength : Nat)
  /-- Reading a description into a model. -/
  | reading (nodes edges : Nat)
  /-- Writing the schema. -/
  | schema (classes : Nat)
  /-- Writing the class sources. -/
  | sources (classes : Nat)
  deriving DecidableEq, Repr

/-- Something that happens in a run and concerns nobody but who follows it. -/
inductive Event where
  /-- The command has its input. -/
  | inputRead (source : String) (bytes : Nat)
  /-- A run begins. -/
  | runStarted
  /-- A class is read. -/
  | classRead (name : String) (attributes methods : Nat)
  /-- All classes are read. -/
  | classesRead (classes : Nat)
  /-- An association is read. -/
  | associationRead (kind : RelationKind) (departure arrival : String) (multiplicity : Multiplicity)
  /-- All associations are read. -/
  | associationsRead (associations diagnostics : Nat)
  /-- The model is complete. -/
  | modelRead (classes associations : Nat)
  /-- An association has no foreign key. -/
  | keyless (departure arrival : String)
  /-- A table is created ahead of its class. -/
  | tableAhead (table : String)
  /-- A class adds nothing to its table. -/
  | nothingAdded (table : String)
  /-- The schema is complete. -/
  | schemaMade (statements tables : Nat)
  /-- A class source is complete. -/
  | sourceMade (name : String) (fields parameters : Nat)
  /-- All class sources are complete. -/
  | sourcesMade (sources : Nat)
  /-- A run is complete. -/
  | runFinished (sources schemaLength diagnostics : Nat)
  /-- The output is written. -/
  | artifactsWritten (files : Nat) (directory : String)
  /-- The command knows of a file that is written. -/
  | fileWritten (path : String)
  /-- The command is complete. -/
  | commandFinished (sources diagnostics : Nat)
  deriving DecidableEq, Repr

/-- Something that a run notes. -/
inductive Entry where
  /-- A diagnostic. -/
  | diagnostic (d : Diagnostic)
  /-- An event. -/
  | event (e : Event)
  /-- A scope begins. -/
  | enter (s : Scope)
  /-- A scope ends. -/
  | leave (s : Scope)
  deriving DecidableEq, Repr

/-- The diagnostic that an entry is. -/
def Entry.diagnostic? : Entry → Option Diagnostic
  | diagnostic d => some d
  | _ => none

/-- What a run notes. -/
abbrev Journal := List Entry

namespace Journal

/-- The diagnostics of a journal. -/
def diagnostics (j : Journal) : List Diagnostic := j.filterMap Entry.diagnostic?

/-- A journal of diagnostics. -/
def ofDiagnostics (ds : List Diagnostic) : Journal := ds.map .diagnostic

/-- A journal within a scope. -/
def within (s : Scope) (j : Journal) : Journal := .enter s :: (j ++ [.leave s])

@[simp]
theorem diagnostics_nil : diagnostics [] = [] := rfl

@[simp]
theorem diagnostics_append (j k : Journal) :
    diagnostics (j ++ k) = diagnostics j ++ diagnostics k := by
  simp [diagnostics]

@[simp]
theorem diagnostics_cons_diagnostic (d : Diagnostic) (j : Journal) :
    diagnostics (.diagnostic d :: j) = d :: diagnostics j := rfl

@[simp]
theorem diagnostics_cons_event (e : Event) (j : Journal) :
    diagnostics (.event e :: j) = diagnostics j := rfl

@[simp]
theorem diagnostics_cons_enter (s : Scope) (j : Journal) :
    diagnostics (.enter s :: j) = diagnostics j := rfl

@[simp]
theorem diagnostics_cons_leave (s : Scope) (j : Journal) :
    diagnostics (.leave s :: j) = diagnostics j := rfl

@[simp]
theorem diagnostics_ofDiagnostics (ds : List Diagnostic) :
    diagnostics (ofDiagnostics ds) = ds := by
  induction ds with
  | nil => rfl
  | cons d ds ih => simpa [ofDiagnostics] using ih

@[simp]
theorem diagnostics_within (s : Scope) (j : Journal) :
    diagnostics (within s j) = diagnostics j := by
  simp [within]

end Journal

end Blueprint

/-!
# Diagnostics

What a run recovers from on its own is reported beside its result: how serious it is, what was done
about it, and where in the diagram it was found.
-/

namespace Blueprint

/-- A block of declarations of a class. -/
inductive Block where
  /-- The attributes. -/
  | attributes
  /-- The methods. -/
  | methods
  deriving DecidableEq, Repr

/-- The name of a block. -/
def Block.name : Block → String
  | .attributes => "attributes"
  | .methods => "methods"

/-- How serious a diagnostic is. -/
inductive Severity where
  /-- Nothing was lost. -/
  | info
  /-- Something of the diagram was left out. -/
  | warning
  deriving DecidableEq, Repr

/-- The name of a severity. -/
def Severity.name : Severity → String
  | .info => "info"
  | .warning => "warning"

/-- A place in a diagram. -/
structure Location where
  /-- The class. -/
  className : String
  /-- One of its blocks. -/
  block : Option Block := none
  /-- A line of the block, counted from one. -/
  line : Option Nat := none
  /-- A character of the line, counted from one. -/
  column : Option Nat := none
  deriving DecidableEq, Repr

namespace Location

/-- A character of a declaration. -/
def declaration (className : String) (block : Block) (line column : Nat) : Location :=
  { className, block := some block, line := some line, column := some column }

/-- A location in words. A column is told only with its line. -/
def text (l : Location) : String :=
  let block := match l.block with
    | some b => " " ++ b.name
    | none => ""
  let position := match l.line, l.column with
    | some n, some k => " " ++ toString n ++ ":" ++ toString k
    | some n, none => " " ++ toString n
    | none, _ => ""
  l.className ++ block ++ position

end Location

/-- Something a run recovered from. -/
structure Diagnostic where
  /-- How serious it is. -/
  severity : Severity
  /-- What it is. -/
  message : String
  /-- Where it is. -/
  location : Option Location := none
  deriving DecidableEq, Repr

namespace Diagnostic

/-- A diagnostic that tells of no loss. -/
def info (message : String) (location : Option Location) : Diagnostic :=
  ⟨.info, message, location⟩

/-- A diagnostic that tells of a loss. -/
def warning (message : String) (location : Option Location) : Diagnostic :=
  ⟨.warning, message, location⟩

/-- A diagnostic in words. -/
def text (d : Diagnostic) : String :=
  match d.location with
  | some l => d.severity.name ++ ": [" ++ l.text ++ "] " ++ d.message
  | none => d.severity.name ++ ": " ++ d.message

/-- Whether a diagnostic tells of a loss. -/
def isWarning (d : Diagnostic) : Bool := d.severity == .warning

end Diagnostic

end Blueprint

import Blueprint.Diagnostic
import Blueprint.OsError

/-!
# Failures

What makes a run stop. A failure holds its cause; `Failure.message` puts it into words.
-/

namespace Blueprint

/-- Why a run stopped. -/
inductive Failure where
  /-- The text is no description of a diagram. -/
  | malformedText (fault : String) (line column : Nat)
  /-- A line of a class is no declaration. -/
  | malformedDeclaration (className : String) (block : Block) (line column : Nat) (fault : String)
  /-- The description is of no use here. -/
  | invalidInput (fault : String)
  /-- Two nodes share an id. -/
  | duplicateNodeId (id : Int)
  /-- Two classes share a name. -/
  | duplicateClassName (name : String)
  /-- A class has a blank name. -/
  | missingClassName (id : Int)
  /-- A name stands for no class. -/
  | unknownClass (name : String)
  /-- A file could not be read or written. -/
  | io (error : OsError)
  deriving DecidableEq, Repr

/-- A failure in words. -/
def Failure.message : Failure → String
  | malformedText fault line column =>
    "Parse error: " ++ fault ++ " at line " ++ toString line ++ ", column " ++ toString column
  | malformedDeclaration className block line column fault =>
    "Malformed declaration in " ++ block.name ++ " of class '" ++ className ++ "': " ++ fault ++
      " at line " ++ toString line ++ ", column " ++ toString column
  | invalidInput fault => "Invalid input: " ++ fault
  | duplicateNodeId id => "Duplicate node id: " ++ toString id
  | duplicateClassName name => "Duplicate class name: " ++ name
  | missingClassName id => "Class node " ++ toString id ++ " has no name"
  | unknownClass name => "Unknown class: " ++ name
  | io error => "IO error: " ++ error.message

end Blueprint

/-!
# Paths

Paths are texts whose steps are separated by slashes. Empty steps do not count. A dot stays where it
is, so that it is a step and no part of what a path names.
-/

namespace Blueprint.Path

/-- The steps of a path. -/
def steps (path : String) : List String :=
  ((path.toList.splitOn '/').map String.ofList).filter (· ≠ "")

/-- The parts of what a path names. -/
def parts (path : String) : List String := (steps path).filter (· ≠ ".")

/-- Whether a path starts at the root. -/
def isAbsolute (path : String) : Bool := path.toList.head? == some '/'

/-- The last part of a path, unless it leads upwards. -/
def fileName? (path : String) : Option String :=
  match (parts path).getLast? with
  | some name => if name = ".." then none else some name
  | none => none

/-- A path taken from a directory. -/
def join (directory path : String) : String :=
  if isAbsolute path ∨ directory = "" then path
  else if directory.toList.getLast? = some '/' then directory ++ path
  else directory ++ "/" ++ path

/-- A path and those of the directories above it, from the innermost outwards. -/
def ancestors (path : String) : List String :=
  let parts := parts path
  let start := if isAbsolute path then "/" else ""
  let outer := (List.range parts.length).tail.map fun n => start ++ "/".intercalate (parts.take n)
  if path = "" then [] else path :: outer.reverse

end Blueprint.Path

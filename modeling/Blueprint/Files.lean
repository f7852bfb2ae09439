import Blueprint.OsError
import Blueprint.Path

/-!
# A tree of files

Files and directories as a value, with the rules of a usual system for the ways in which looking up,
reading and writing can fail. Places are told by their parts from the top of the tree; a path is
taken from a working directory. Above the tree there are directories, up to the root, in which
nothing is known by a name.
-/

namespace Blueprint

/-- A place in a tree: the parts of its path from the top. -/
abbrev Place := List String

/-- What is at a place. -/
inductive Content where
  /-- A directory. -/
  | directory
  /-- A file. -/
  | file (bytes : List UInt8)
  deriving DecidableEq, Repr

/-- A tree of files. -/
structure Files where
  /-- What is there, below the top, no place twice. -/
  entries : List (Place × Content) := []
  /-- The working directory. -/
  workingDirectory : Place := []
  deriving DecidableEq, Repr

namespace Files

/-- What is at a place. The top is a directory. -/
def content? (t : Files) (p : Place) : Option Content :=
  if p = [] then some .directory else t.entries.lookup p

/-- Puts something at a place. -/
def put (t : Files) (p : Place) (c : Content) : Files :=
  if (t.entries.lookup p).isSome then
    { t with entries := t.entries.map fun e => if e.1 = p then (p, c) else e }
  else { t with entries := t.entries ++ [(p, c)] }

/-- The greatest number of bytes of a part of a path. -/
def maxPartLength : Nat := 255

/-- The greatest number of bytes of a path. -/
def maxPathLength : Nat := 4095

/-- Where a path leads. -/
inductive Target where
  /-- To something that is there. -/
  | present (p : Place) (c : Content)
  /-- To something that is not there, in a directory that is. -/
  | absent (p : Place)
  /-- To a directory above the tree. -/
  | above
  deriving DecidableEq, Repr

/-- Walks along the steps of a path, from a directory above the tree. -/
def walkAbove : List String → Except OsError Target
  | [] => .ok .above
  | part :: parts =>
    if part = "." ∨ part = ".." then walkAbove parts
    else if maxPartLength < part.utf8ByteSize then .error .nameTooLong
    else .error .notFound

/-- Walks along the steps of a path, from a directory. A dot stays in a directory, and nothing but a
directory can be stayed in. -/
def walk (t : Files) (place : Place) : List String → Except OsError Target
  | [] => .ok (.present place .directory)
  | part :: parts =>
    if part = "." then t.walk place parts
    else if part = ".." then
      if place = [] then walkAbove parts else t.walk place.dropLast parts
    else if maxPartLength < part.utf8ByteSize then .error .nameTooLong
    else
      match t.content? (place ++ [part]) with
      | some .directory => t.walk (place ++ [part]) parts
      | some (.file bytes) =>
        if parts.isEmpty then .ok (.present (place ++ [part]) (.file bytes))
        else .error .notADirectory
      | none => if parts.isEmpty then .ok (.absent (place ++ [part])) else .error .notFound

/-- Where a path leads. -/
def locate (t : Files) (path : String) : Except OsError Target :=
  if '\x00' ∈ path.toList then .error .nulInName
  else if path = "" then .error .notFound
  else if maxPathLength < path.utf8ByteSize then .error .nameTooLong
  else if Path.isAbsolute path then walkAbove (Path.steps path)
  else t.walk t.workingDirectory (Path.steps path)

/-- Whether a path has to lead to a directory: it ends with a slash. -/
def wantsDirectory (path : String) : Bool := path.toList.getLast? == some '/'

/-- The content of a file. -/
def read (t : Files) (path : String) : Except OsError (List UInt8) :=
  match t.locate path with
  | .error e => .error e
  | .ok (.absent _) => .error .notFound
  | .ok (.present _ .directory) | .ok .above => .error .isADirectory
  | .ok (.present _ (.file bytes)) =>
    if wantsDirectory path then .error .notADirectory else .ok bytes

/-- Makes a file with a content, or gives it one. -/
def write (t : Files) (path : String) (bytes : List UInt8) : Except OsError Files :=
  match t.locate path with
  | .error e => .error e
  | .ok (.present _ .directory) | .ok .above => .error .isADirectory
  | .ok (.present p (.file _)) | .ok (.absent p) =>
    if wantsDirectory path then .error .isADirectory else .ok (t.put p (.file bytes))

/-- Makes a directory. -/
def createDirectory (t : Files) (path : String) : Except OsError Files :=
  match t.locate path with
  | .error e => .error e
  | .ok (.present ..) | .ok .above => .error .alreadyExists
  | .ok (.absent p) => .ok (t.put p .directory)

/-- Whether a path leads to a directory. -/
def isDirectory (t : Files) (path : String) : Bool :=
  match t.locate path with
  | .ok (.present _ .directory) | .ok .above => true
  | _ => false

end Files

end Blueprint

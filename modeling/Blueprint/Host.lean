import Blueprint.Json.Value
import Blueprint.OsError

/-!
# Hosts

What the program needs from its surroundings: files, directories, an input, and somewhere to print.
A host is a monad with these operations, so that the program runs on a real system as well as on a
tree of files that is a plain value.
-/

namespace Blueprint

/-- Something printed. -/
inductive Output where
  /-- A line of the result. -/
  | result (line : String)
  /-- A text of the result that ends with a line end or is empty. -/
  | text (s : String)
  /-- A line beside the result. -/
  | message (line : String)
  /-- A record beside the result, on one line. -/
  | record (v : Json.Value)

/-- What the program needs from its surroundings. -/
class Host (m : Type → Type) where
  /-- The content of a file. -/
  readFile : String → m (Except OsError (List UInt8))
  /-- The whole input. -/
  readInput : m (Except OsError (List UInt8))
  /-- Makes a directory in one that is there. -/
  createDirectory : String → m (Except OsError Unit)
  /-- Whether a path leads to a directory. -/
  isDirectory : String → m Bool
  /-- Makes a file with a content, or gives it one. -/
  writeFile : String → String → m (Except OsError Unit)
  /-- Prints. -/
  print : Output → m Unit

end Blueprint

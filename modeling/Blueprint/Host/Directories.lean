import Blueprint.Host
import Blueprint.Path

/-!
# Making directories

A directory is made together with those above it that are not there. They are tried from the
innermost outwards until one can be made or is there, and then made inwards.
-/

namespace Blueprint

variable {m : Type → Type} [Monad m] [Host m]

/-- Makes a directory unless it is there. -/
def ensureDirectory (path : String) : m (Except OsError Unit) := do
  match ← Host.createDirectory path with
  | .ok () => pure (.ok ())
  | .error .alreadyExists =>
    if ← Host.isDirectory path then pure (.ok ()) else pure (.error .alreadyExists)
  | .error e => pure (.error e)

/-- Makes directories one after another, up to the first that cannot be made. -/
def ensureDirectories : List String → m (Except OsError Unit)
  | [] => pure (.ok ())
  | path :: paths => do
    match ← ensureDirectory path with
    | .ok () => ensureDirectories paths
    | .error e => pure (.error e)

/-- Of paths, from the innermost outwards, those before the first that can be made or is there. They
come outermost first. -/
def missingDirectories : List String → m (Except OsError (List String))
  | [] => pure (.ok [])
  | path :: outer => do
    match ← ensureDirectory path with
    | .ok () => pure (.ok [])
    | .error .notFound => do
      let rest ← missingDirectories outer
      pure (rest.map (· ++ [path]))
    | .error e => pure (.error e)

/-- Makes a directory and those above it that are not there. -/
def createDirectories (path : String) : m (Except OsError Unit) := do
  match ← missingDirectories (Path.ancestors path) with
  | .ok missing => ensureDirectories missing
  | .error e => pure (.error e)

end Blueprint

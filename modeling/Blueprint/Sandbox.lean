import Blueprint.Files
import Blueprint.Host

/-!
# Sandboxes

A host that is a plain value: a tree of files, an input, and what was printed. Running on it has no
effect outside.
-/

namespace Blueprint

/-- A host as a value. -/
structure Sandbox where
  /-- The files. -/
  files : Files := {}
  /-- The input. -/
  input : List UInt8 := []
  /-- What was printed, in order. -/
  printed : List Output := []

/-- Running on a sandbox. -/
abbrev SandboxM := StateM Sandbox

instance : Host SandboxM where
  readFile path := fun s => (s.files.read path, s)
  readInput := fun s => (.ok s.input, s)
  createDirectory path := fun s =>
    match s.files.createDirectory path with
    | .ok files => (.ok (), { s with files })
    | .error e => (.error e, s)
  isDirectory path := fun s => (s.files.isDirectory path, s)
  writeFile path text := fun s =>
    match s.files.write path text.toUTF8.toList with
    | .ok files => (.ok (), { s with files })
    | .error e => (.error e, s)
  print o := fun s => ((), { s with printed := s.printed ++ [o] })

end Blueprint

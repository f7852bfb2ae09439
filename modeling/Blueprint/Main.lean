import Blueprint.Command.Run
import Blueprint.Json.Printer

/-!
# The program

Runs the command line on the system that the program runs on.
-/

namespace Blueprint.Main

/-- The program's part of an error of the system. -/
def osError : IO.Error → OsError
  | .noFileOrDirectory .. => .notFound
  | .alreadyExists .. => .alreadyExists
  | .inappropriateType _ number text | .permissionDenied _ number text
  | .invalidArgument _ number text | .resourceExhausted _ number text =>
    .other text (some number.toNat)
  | e => .other (toString e) none

/-- The outcome of an operation of the system. -/
def attempt {α : Type} (act : IO α) : IO (Except OsError α) := do
  try
    let a ← act
    pure (.ok a)
  catch e => pure (.error (osError e))

/-- Everything that a stream still holds. -/
partial def readAll (stream : IO.FS.Stream) (read : ByteArray) : IO ByteArray := do
  let chunk ← stream.read 65536
  if chunk.isEmpty then pure read else readAll stream (read ++ chunk)

instance : Host IO where
  readFile path := attempt do
    let bytes ← IO.FS.readBinFile path
    pure bytes.toList
  readInput := attempt do
    let bytes ← readAll (← IO.getStdin) .empty
    pure bytes.toList
  createDirectory path := attempt (IO.FS.createDir path)
  isDirectory path := do
    -- A directory holds its own dot, so making that one fails because it is there.
    match ← attempt (IO.FS.createDir (path ++ "/.")) with
    | .error .alreadyExists => pure true
    | _ => pure false
  writeFile path text := attempt (IO.FS.writeFile path text)
  print
    | .result line => IO.println line
    | .text s => IO.print s
    | .message line => IO.eprintln line
    | .record v => IO.eprintln v.line

end Blueprint.Main

/-- Runs the program. -/
def main (arguments : List String) : IO UInt32 := do
  let names := ["UMLFORGE_LOG_LEVEL", "UMLFORGE_LOG_FORMAT", "RUST_LOG"]
  let values ← names.mapM fun name => do
    pure (name, ← IO.getEnv name)
  let environment (name : String) : Option String := (values.lookup name).join
  let code ← Blueprint.Command.run environment arguments
  pure code.toUInt32

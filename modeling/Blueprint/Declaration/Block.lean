import Blueprint.Declaration.Line
import Blueprint.Failure
import Blueprint.Model

/-!
# Declaration blocks

A block holds a declaration on every line that is not blank. Lines are cut at line feeds, numbered
from one and trimmed; a carriage return before a line feed is blank and goes with the trimming.

The first line that is no declaration ends the reading. A parameter that is not a type and a name is
left out with a warning. Places are told in the untrimmed line.
-/

namespace Blueprint.Declaration

/-- A line of a block that is not blank. -/
structure BlockLine where
  /-- The trimmed line. -/
  text : List Char
  /-- Its number, from one. -/
  number : Nat
  /-- How many blanks stood before it. -/
  indent : Nat
  deriving DecidableEq, Repr

/-- The lines of a block that are not blank. -/
def blockLines (block : String) : List BlockLine :=
  ((block.toList.splitOnP (· == '\n')).zipIdx 1).filterMap fun (raw, number) =>
    let text := Text.trimChars raw
    if text.isEmpty then none
    else some { text, number, indent := raw.length - (Text.trimStart raw).length }

/-- The failure that an error in a line of a block is. -/
def BlockLine.failure (l : BlockLine) (className : String) (block : Block) (e : LineError) :
    Failure :=
  .malformedDeclaration className block l.number (l.indent + e.column) e.fault.message

/-- The attribute that a line declares. Without a marker it is private. -/
def AttributeLine.attribute (l : AttributeLine) : Attribute :=
  { name := l.name, type := l.type, visibility := l.visibility.getD .priv }

/-- Reads a block of attributes. -/
def readAttributes (className block : String) : Except Failure (List Attribute) :=
  (blockLines block).mapM fun l =>
    match readAttribute l.text with
    | .ok a => .ok a.attribute
    | .error e => .error (l.failure className .attributes e)

/-- The parameter that a segment declares, if it is a type and a name. -/
def Segment.parameter? (s : Segment) : Option Parameter :=
  match Text.words s.text.toList with
  | [type, name] => some { type := String.ofList type, name := String.ofList name }
  | _ => none

/-- The segments that should declare a parameter: all, unless there is but a blank one. -/
def MethodLine.parameterSegments (l : MethodLine) : List Segment :=
  match l.segments with
  | [s] => if s.text.toList.all Text.isBlank then [] else [s]
  | segments => segments

/-- The method that a line declares. Without a marker it is private. -/
def MethodLine.method (l : MethodLine) : Method :=
  { name := l.name, returnType := l.returnType, visibility := l.visibility.getD .priv,
    parameters := l.parameterSegments.filterMap Segment.parameter? }

/-- The warnings for the segments of a line that declare no parameter. -/
def skippedParameters (className : String) (l : BlockLine) (m : MethodLine) : List Diagnostic :=
  (m.parameterSegments.filter (·.parameter?.isNone)).map fun s =>
    .warning
      ("skipped parameter '" ++ Text.trim s.text ++ "' of " ++ m.name ++ ": expected `type name`")
      (some (.declaration className .methods l.number
        (l.indent + columnOfByte l.text s.start)))

/-- Reads the lines of a block of methods. The warnings of the lines before a failure are kept. -/
def readMethodLines (className : String) :
    List BlockLine → List Diagnostic × Except Failure (List Method)
  | [] => ([], .ok [])
  | l :: ls =>
    match readMethod l.text with
    | .error e => ([], .error (l.failure className .methods e))
    | .ok m =>
      let rest := readMethodLines className ls
      (skippedParameters className l m ++ rest.1, rest.2.map (m.method :: ·))

/-- Reads a block of methods. -/
def readMethods (className block : String) : List Diagnostic × Except Failure (List Method) :=
  readMethodLines className (blockLines block)

end Blueprint.Declaration

import Blueprint.Diagnostic
import Blueprint.Text.Blank
import Blueprint.Visibility

/-!
# Declaration lines

A line of a class declares an attribute or a method:

    attribute  ::=  [marker] space* name ":" type
    method     ::=  [marker] space* name "(" [segment ("," segment)*] ")" space* ":" type
    marker     ::=  "+" | "-" | "*"

A space is a space or a tab. The name is not blank and runs up to the first `:`, that of a method
also up to the first `(`. A segment holds no parenthesis, comma or colon. The type is whatever
follows. Names and types are trimmed; segments are kept as they stand, with the bytes they take up.

A line that is no declaration gives the first byte at which no declaration goes on like this line, and
what stands there. Its column is counted in characters from one. A blank name is reported at its start. Where
a line neither has a marker nor starts with a name, the missing marker is reported instead.
-/

namespace Blueprint.Declaration

/-- Why a line is no declaration. `found` is the character at fault, if the line does not end. -/
inductive Fault where
  /-- The line is empty. -/
  | empty
  /-- The line starts with neither a marker nor a name. -/
  | noMarker (c : Char)
  /-- No name follows the marker. -/
  | noName (found : Option Char)
  /-- The name is blank. -/
  | blankName (block : Block)
  /-- No colon follows the name of an attribute. -/
  | noTypeColon (found : Option Char)
  /-- No parenthesis follows the name of a method. -/
  | noOpening (found : Option Char)
  /-- The parenthesis is not closed. -/
  | noClosing (found : Option Char)
  /-- No colon follows the closing parenthesis. -/
  | noReturnColon (found : Option Char)
  deriving DecidableEq, Repr

/-- What stands at a column, in words. -/
def foundText : Option Char → String
  | some c => "found '" ++ String.singleton c ++ "'"
  | none => "found end of input"

/-- The member that a block declares. -/
def memberName : Block → String
  | .attributes => "attribute"
  | .methods => "method"

/-- A fault in words. -/
def Fault.message : Fault → String
  | empty => foundText none ++ " expected any, ' ', '\t', or something else"
  | noMarker c => "'" ++ String.singleton c ++ "' is not a visibility marker"
  | noName found => foundText found ++ " expected ' ', '\t', or something else"
  | blankName block => "missing " ++ memberName block ++ " name"
  | noTypeColon found =>
    foundText found ++ " expected something else, or ':' before the attribute type"
  | noOpening found => foundText found ++ " expected something else, or '(' after the method name"
  | noClosing found => foundText found ++ " expected something else, ',', or matching ')'"
  | noReturnColon found =>
    foundText found ++ " expected ' ', '\t', or ':' before the return type"

/-- A fault and its place in a line. -/
structure LineError where
  /-- What is wrong. -/
  fault : Fault
  /-- The line. -/
  line : List Char
  /-- The byte at fault, counted from zero. -/
  offset : Nat
  deriving DecidableEq, Repr

/-- The number of characters before a byte, if a character starts or the text ends there. -/
def charactersBefore? : List Char → Nat → Option Nat
  | _, 0 => some 0
  | [], _ + 1 => none
  | c :: r, n + 1 =>
    if c.utf8Size ≤ n + 1 then (charactersBefore? r (n + 1 - c.utf8Size)).map (· + 1) else none

/-- The column of a byte of a line, counted in characters from one. A byte that starts no character
counts as itself. -/
def columnOfByte (line : List Char) (byte : Nat) : Nat :=
  (charactersBefore? line byte).getD byte + 1

/-- The column of an error, counted in characters from one. -/
def LineError.column (e : LineError) : Nat := columnOfByte e.line e.offset

/-- The byte of `line` at which `rest`, an end of it, starts. -/
def offsetOf (line rest : List Char) : Nat := Text.byteLength line - Text.byteLength rest

/-- The error of a fault in `line` at the start of `rest`, an end of it. -/
def errorAt (line rest : List Char) (fault : Fault) : LineError :=
  { fault, line, offset := offsetOf line rest }

/-- An attribute line. -/
structure AttributeLine where
  /-- What the marker says. -/
  visibility : Option Visibility
  /-- The name. -/
  name : String
  /-- The name of the type. -/
  type : String
  deriving DecidableEq, Repr

/-- What stands between two commas of a parameter list. -/
structure Segment where
  /-- The text, blanks included. -/
  text : String
  /-- Its first byte in the line, counted from zero. -/
  start : Nat
  /-- The byte after its last one. -/
  stop : Nat
  deriving DecidableEq, Repr

/-- A method line. -/
structure MethodLine where
  /-- What the marker says. -/
  visibility : Option Visibility
  /-- The name. -/
  name : String
  /-- The parameter list, which has at least one segment. -/
  segments : List Segment
  /-- The name of the result's type. -/
  returnType : String
  deriving DecidableEq, Repr

/-- The spaces of a declaration line. -/
def isSpace (c : Char) : Bool := c == ' ' || c == '\t'

/-- Takes the marker off a line. -/
def splitMarker : List Char → Option Visibility × List Char
  | [] => (none, [])
  | c :: r =>
    match Visibility.ofMarker? c with
    | some v => (some v, r)
    | none => (none, c :: r)

/-- The start of a line: marker and name. -/
structure Head where
  /-- What the marker says. -/
  visibility : Option Visibility
  /-- The name. -/
  name : String
  /-- What follows the name. -/
  rest : List Char
  deriving DecidableEq, Repr

/-- Reads marker and name, the name up to a stop. -/
def readHead (block : Block) (isStop : Char → Bool) (line : List Char) : Except LineError Head :=
  match line with
  | [] => .error ⟨.empty, [], 0⟩
  | c :: _ =>
    let marked := splitMarker line
    let named := marked.2.dropWhile isSpace
    let name := named.takeWhile (!isStop ·)
    let rest := named.dropWhile (!isStop ·)
    if name.all Text.isBlank then
      if named.length = line.length then .error ⟨.noMarker c, line, 0⟩
      else if name.isEmpty then .error (errorAt line named (.noName rest.head?))
      else .error (errorAt line named (.blankName block))
    else
      .ok { visibility := marked.1, name := String.ofList (Text.trimChars name), rest }

/-- Reads the characters of an attribute line. -/
def readAttribute (line : List Char) : Except LineError AttributeLine := do
  let head ← readHead .attributes (· == ':') line
  match head.rest with
  | ':' :: type =>
    .ok { visibility := head.visibility, name := head.name,
          type := String.ofList (Text.trimChars type) }
  | rest => .error (errorAt line rest (.noTypeColon rest.head?))

/-- Segments with their bytes, the first of which starts at byte `start`. -/
def segmentsFrom : Nat → List (List Char) → List Segment
  | _, [] => []
  | start, text :: texts =>
    let stop := start + Text.byteLength text
    { text := String.ofList text, start, stop } :: segmentsFrom (stop + 1) texts

/-- The characters that end a parameter list. -/
def endsParameters (c : Char) : Bool := c == '(' || c == ')' || c == ':'

/-- Reads the characters of a method line. -/
def readMethod (line : List Char) : Except LineError MethodLine := do
  let head ← readHead .methods (fun c => c == '(' || c == ':') line
  match head.rest with
  | '(' :: inner =>
    let parameters := inner.takeWhile (!endsParameters ·)
    match inner.dropWhile (!endsParameters ·) with
    | ')' :: closed =>
      match closed.dropWhile isSpace with
      | ':' :: type =>
        .ok { visibility := head.visibility, name := head.name,
              segments := segmentsFrom (offsetOf line inner) (parameters.splitOnP (· == ',')),
              returnType := String.ofList (Text.trimChars type) }
      | rest => .error (errorAt line rest (.noReturnColon rest.head?))
    | rest => .error (errorAt line rest (.noClosing rest.head?))
  | rest => .error (errorAt line rest (.noOpening rest.head?))

end Blueprint.Declaration

import Blueprint.Log.Pattern
import Blueprint.Log.Record
import Blueprint.Text.Blank

/-!
# Directives

A directive says how much a log shows of what it speaks of:

    directive  ::=  level
                 |  origin ["=" [level]]
                 |  [origin] "[" [scope] ["{" field "}"] "]" ["=" [level]]
    field      ::=  name ["=" value]

A level is a word or a number, 0 for `off` to 5 for `trace`; one that is left out is `trace`. An
origin starts with a letter, a number, a dash, a colon or a low line. A value is a number, or a
pattern for values that are no numbers.
-/

namespace Blueprint.Log

/-! ## What a directive says -/

/-- What is asked of the value of a field. -/
inductive Demand where
  /-- Nothing. -/
  | anything
  /-- That it is a number. -/
  | number (n : Nat)
  /-- Something that holds of no number. -/
  | unlikeNumbers
  deriving DecidableEq, Repr

/-- A field that is asked for. -/
structure Field where
  /-- The name. -/
  name : String
  /-- What is asked of its value. -/
  demand : Demand
  deriving DecidableEq, Repr

/-- A part of a filter. -/
structure Directive where
  /-- What the names of the parts of the program it speaks of start with. -/
  origin : Option String := none
  /-- The name of the scopes it speaks of. -/
  scope : Option String := none
  /-- A field of what it speaks of. -/
  field : Option Field := none
  /-- The level it shows, by its detail. -/
  detail : Nat := Level.trace.detail
  deriving DecidableEq, Repr

/-! ## Levels -/

/-- The words for levels. -/
def levelWords : List (String × Nat) :=
  [("off", 0), ("error", 1), ("warn", 2), ("info", 3), ("debug", 4), ("trace", 5)]

/-- The detail of a level. -/
def detail? (s : List Char) : Option Nat :=
  match Text.numeral? s with
  | some n => if n ≤ Level.trace.detail then some n else none
  | none => levelWords.lookup (String.ofList (s.map Char.toLower))

/-- Reads what may follow an equality sign. -/
def levelPart? (s : List Char) : Option Nat :=
  if s.isEmpty then some Level.trace.detail else detail? s

/-! ## Fields -/

/-- Reads what is asked of a value. -/
def demand? (s : List Char) : Option Demand :=
  match Text.word? s with
  | some n => some (.number n)
  | none => if Text.isDecimal s || Pattern.isPattern s then some .unlikeNumbers else none

/-- Reads a field. What follows a second equality sign does not count. -/
def field? (s : List Char) : Option Field :=
  match s.splitOn '=' with
  | [] | [[]] => none
  | [name] => some ⟨String.ofList name, .anything⟩
  | name :: value :: _ => (demand? value).map (⟨String.ofList name, ·⟩)

/-! ## Reading

Where a part of a directive ends is seen in its text without the blanks around it. The part itself
is cut from the text with the blanks, at the same distance in bytes from its start, and a level at
the end takes what is left. So blanks in front move every cut, and those at the end belong to what
is last.
-/

/-- A text cut after so many bytes, if a character ends there. -/
def cutAfter? : Nat → List Char → Option (List Char × List Char)
  | 0, s => some ([], s)
  | _ + 1, [] => none
  | n + 1, c :: s =>
    if c.utf8Size ≤ n + 1 then
      (cutAfter? (n + 1 - c.utf8Size) s).map fun parts => (c :: parts.1, parts.2)
    else none

/-- A place in a directive. -/
structure Cursor where
  /-- The text that parts are cut from. -/
  whole : List Char
  /-- What is left of the text in which the ends of parts are seen. -/
  seen : List Char
  /-- How many bytes of that text lie before the place. -/
  offset : Nat := 0
  deriving DecidableEq, Repr

namespace Cursor

/-- Goes on behind so many signs of one byte. -/
def skip (c : Cursor) (signs : Nat) : Cursor :=
  { c with seen := c.seen.drop signs, offset := c.offset + signs }

/-- What is left of the text that parts are cut from, if no character lies across the place. -/
def rest? (c : Cursor) : Option (List Char) := (cutAfter? c.offset c.whole).map (·.2)

/-- Cuts off the part before the first of some signs, if one is seen. -/
def part? (c : Cursor) (isEnd : Char → Bool) : Option (List Char × Cursor) := do
  let before := c.seen.takeWhile (!isEnd ·)
  let size := Text.byteLength before
  if before.length = c.seen.length then none
  else
    let (part, _) ← cutAfter? size (← c.rest?)
    some (part, { c with seen := c.seen.drop before.length, offset := c.offset + size })

end Cursor

/-- Whether a character may start an origin. -/
def startsOrigin (c : Char) : Bool :=
  c == '-' || c == ':' || c == '_' || Text.isLetterOrNumber c

namespace Directive

/-- Reads what follows an origin, or what follows a bracket. -/
def readLevel? (d : Directive) (c : Cursor) : Option Directive :=
  match c.seen with
  | [] => some d
  | '=' :: _ => do
    let detail ← levelPart? (← (c.skip 1).rest?)
    some { d with detail }
  | _ => none

/-- Reads what follows an opening brace. -/
def readField? (d : Directive) (c : Cursor) : Option Directive := do
  let (part, c) ← c.part? (· == '}')
  let field ← field? part
  match c.seen with
  | '}' :: ']' :: _ => readLevel? { d with field := some field } (c.skip 2)
  | _ => none

/-- Reads what follows an opening bracket. -/
def readScope? (d : Directive) (c : Cursor) : Option Directive := do
  let (part, c) ← c.part? fun c => c == ']' || c == '{'
  let name := String.ofList part
  match c.seen with
  | ']' :: _ => readLevel? { d with scope := some name } (c.skip 1)
  | '{' :: _ =>
    let scope := if name = "" then none else some name
    readField? { d with scope } (c.skip 1)
  | _ => none

/-- The directive of a word: of a level if it is one, or else of an origin. -/
def ofWord (s : List Char) : Directive :=
  match detail? s with
  | some detail => { detail }
  | none => { origin := some (String.ofList s) }

/-- Reads a directive. -/
def ofText? (s : List Char) : Option Directive :=
  let c : Cursor := { whole := s, seen := Text.trimChars s }
  match c.seen with
  | [] => none
  | '[' :: _ => readScope? {} (c.skip 1)
  | first :: _ =>
    let isEnd (c : Char) : Bool := c == '=' || c == '['
    if !startsOrigin first then none
    else if !c.seen.any isEnd then some (ofWord s)
    else do
      let (part, after) ← c.part? isEnd
      let d : Directive := { origin := some (String.ofList part) }
      match after.seen with
      | '[' :: _ => d.readScope? (after.skip 1)
      | _ => d.readLevel? after

end Directive

end Blueprint.Log

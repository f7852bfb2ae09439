import Blueprint.Json.Error

/-!
# Reading a JSON text

A reader takes characters off what is left of a text and keeps count of the position. A fault is
reported either at the position reached, or ahead: just past the first byte of the character that
stands next.

Repetition is bounded by the characters left, of which every round takes at least one.
-/

namespace Blueprint.Json

/-- The position after a character. -/
def Position.after (p : Position) (c : Char) : Position :=
  if c = '\n' then ⟨p.line + 1, 0⟩ else ⟨p.line, p.column + c.utf8Size⟩

/-- The position after the first byte of a character. -/
def Position.into (p : Position) (c : Char) : Position :=
  if c = '\n' then ⟨p.line + 1, 0⟩ else ⟨p.line, p.column + 1⟩

/-- A text that is partly read. -/
structure Cursor where
  /-- How far it is read. -/
  position : Position
  /-- What is left. -/
  rest : List Char
  deriving Repr

/-- The cursor at the start of a text. -/
def Cursor.start (text : String) : Cursor := ⟨{}, text.toList⟩

/-- Takes a value off a text, or fails. -/
abbrev Reader := StateT Cursor (Except Error)

/-- Fails at the position reached. -/
def failHere {α : Type} (cause : Cause) : Reader α := fun c => .error ⟨cause, c.position⟩

/-- Fails just past the first byte of what stands next. -/
def failAhead {α : Type} (cause : Cause) : Reader α := fun c =>
  match c.rest with
  | [] => .error ⟨cause, c.position⟩
  | d :: _ => .error ⟨cause, c.position.into d⟩

/-- The next character, which stays. -/
def peek : Reader (Option Char) := fun c => .ok (c.rest.head?, c)

/-- Takes the next character. -/
def next : Reader (Option Char) := fun c =>
  match c.rest with
  | [] => .ok (none, c)
  | d :: rest => .ok (some d, ⟨c.position.after d, rest⟩)

/-- Takes the characters that satisfy `p`, up to the first that does not. -/
def takeWhile (p : Char → Bool) : Reader (List Char) := fun c =>
  let taken := c.rest.takeWhile p
  .ok (taken, ⟨taken.foldl Position.after c.position, c.rest.dropWhile p⟩)

/-- The blanks between the parts of a JSON text. -/
def isSpace (c : Char) : Bool := c == ' ' || c == '\n' || c == '\t' || c == '\r'

/-- Takes blanks. -/
def skipSpaces : Reader Unit := do
  let _ ← takeWhile isSpace

/-- The number of characters left. -/
def remaining : Reader Nat := fun c => .ok (c.rest.length, c)

/-- Takes the characters of a word. -/
def word : List Char → Reader Unit
  | [] => pure ()
  | w :: ws => do
    match ← peek with
    | none => failHere .endInValue
    | some c => if c = w then do let _ ← next; word ws else failAhead .notAWord

/-- Reads a whole text with a reader. -/
def Reader.run? {α : Type} (r : Reader α) (text : String) : Except Error α := do
  let (a, c) ← r (.start text)
  let (_, c) ← skipSpaces c
  if c.rest.isEmpty then .ok a
  else
    let (b, _) ← failAhead (α := α) .trailingCharacters c
    .ok b

end Blueprint.Json

import Blueprint.Log.Pattern.Bracket
import Blueprint.Text.LetterTable

/-!
# Patterns

Which texts are regular expressions. A pattern is read sign by sign. What is kept of it is what the
signs to come depend on: the options that hold, the names that groups have, and the shape of the
groups that are open, which tells what can be repeated and how deeply it is nested.

A pattern here is the value of a field in a directive, which ends at its first closing brace. So
nothing that needs a closing brace can be complete, and an opening brace is refused.
-/

namespace Blueprint.Log.Pattern

/-- The greatest depth to which the parts of a pattern may be nested. -/
def maxHeight : Nat := 250

/-! ## Shapes -/

/-- A part of a sequence. -/
structure Part where
  /-- How deeply it is nested. -/
  height : Nat := 0
  /-- Whether it can be repeated. -/
  repeatable : Bool := true
  deriving DecidableEq, Repr

/-- What is read of a group, or of the whole outside groups. -/
structure Shape where
  /-- How deeply the choices before the last bar are nested. -/
  choices : List Nat := []
  /-- The parts behind the last bar, from the last one read. -/
  parts : List Part := []
  deriving DecidableEq, Repr

namespace Shape

/-- Adds a part. -/
def add (s : Shape) (p : Part) : Shape := { s with parts := p :: s.parts }

/-- How deeply the parts behind the last bar are nested. -/
def lastHeight (s : Shape) : Nat := nest (s.parts.map Part.height)

/-- Ends a choice. -/
def choose (s : Shape) : Shape := { choices := s.lastHeight :: s.choices }

/-- How deeply a group is nested inside. -/
def height (s : Shape) : Nat := nest (s.lastHeight :: s.choices)

/-- Repeats the last part. -/
def again? (s : Shape) : Option Shape :=
  match s.parts with
  | part :: parts =>
    if part.repeatable then some { s with parts := { height := part.height + 1 } :: parts }
    else none
  | [] => none

end Shape

/-! ## Reading -/

/-- What is kept of what is read of a pattern. -/
structure Progress where
  /-- The options that hold. -/
  options : Options := {}
  /-- The names of groups. -/
  names : List (List Char) := []
  /-- What is read of the innermost group. -/
  shape : Shape := {}
  /-- What is read of the groups around it, with the options that hold in them. -/
  outer : List (Options × Shape) := []
  deriving DecidableEq, Repr

namespace Progress

/-- Adds a part if it may stand. -/
def add? (p : Progress) (allowed : Bool) (part : Part := {}) : Option Progress :=
  if allowed then some { p with shape := p.shape.add part } else none

/-- Opens a group in which some options hold. -/
def openGroup (p : Progress) (options : Options) : Progress :=
  { p with options, shape := {}, outer := (p.options, p.shape) :: p.outer }

/-- Closes the innermost group. -/
def closeGroup? (p : Progress) : Option Progress :=
  match p.outer with
  | [] => none
  | (options, shape) :: outer =>
    some { p with options, shape := shape.add { height := 1 + p.shape.height }, outer }

/-- Whether a text can be the name of a group: letters, numbers, low lines, points and brackets, a
letter or a low line first. -/
def isName : List Char → Bool
  | [] => false
  | first :: more =>
    let inName (c : Char) : Bool := Text.isLetterOrNumber c || c ∈ ['_', '.', '[', ']']
    (first == '_' || Text.isLetter first) && more.all inName

/-- Opens a group with a name, which no other group has. -/
def openNamed? (p : Progress) (s : List Char) : Option (Progress × List Char) :=
  let name := s.takeWhile (· != '>')
  match s.dropWhile (· != '>') with
  | [] => none
  | _ :: rest =>
    if isName name ∧ name ∉ p.names then
      some ({ p with names := name :: p.names }.openGroup p.options, rest)
    else none

/-- Switches options, for a group that is opened, or, if none is, for what follows. -/
def switchOptions? (p : Progress) (s : List Char) : Option (Progress × List Char) := do
  let isEnd (c : Char) : Bool := c == ':' || c == ')'
  let letters := s.takeWhile (!isEnd ·)
  let options ← p.options.switchAll? letters
  match s.dropWhile (!isEnd ·) with
  | ':' :: rest => some (p.openGroup options, rest)
  | ')' :: rest =>
    let part : Part := { repeatable := false }
    if letters.isEmpty then none
    else some ({ p with options, shape := p.shape.add part }, rest)
  | _ => none

/-- Reads the start of a group after its parenthesis. -/
def readGroup? (p : Progress) (s : List Char) : Option (Progress × List Char) :=
  match p.options.skip s with
  | '?' :: 'P' :: '<' :: s | '?' :: '<' :: s => p.openNamed? s
  | '?' :: s => p.switchOptions? s
  | s => some (p.openGroup p.options, s)

/-- Adds what an escape stands for if it may stand. -/
def addEscape? (p : Progress) : Escape → Option Progress
  | .character c byte => p.add? (p.options.allowsCharacter c byte)
  | .kind complement => p.add? (p.options.allowsKind complement)
  | .place => p.add? true
  | .boundary => p.add? p.options.allowsBoundary

/-- Reads the next sign of a pattern. A repetition may be followed by a question mark that makes it
short. -/
def step? (p : Progress) : List Char → Option (Progress × List Char)
  | [] | '{' :: _ => none
  | '(' :: s => p.readGroup? s
  | ')' :: s => p.closeGroup?.map (·, s)
  | '|' :: s => some ({ p with shape := p.shape.choose }, s)
  | '[' :: s => do
    let (height, s) ← Bracket.read? p.options s
    let p ← p.add? true { height }
    some (p, s)
  | '\\' :: s => do
    let (escape, s) ← readEscape? p.options s
    let p ← p.addEscape? escape
    some (p, s)
  | '^' :: s | '$' :: s => (p.add? true).map (·, s)
  | '.' :: s => (p.add? p.options.allowsAny).map (·, s)
  | c :: s =>
    if c = '?' ∨ c = '*' ∨ c = '+' then do
      let shape ← p.shape.again?
      let rest := match s with
        | '?' :: rest => rest
        | rest => rest
      some ({ p with shape }, rest)
    else (p.add? (p.options.allowsCharacter c false)).map (·, s)

/-- Reads a pattern, in at most so many steps. -/
def run? : Nat → Progress → List Char → Option Progress
  | steps, p, s =>
    match steps, p.options.skip s with
    | _, [] => some p
    | 0, _ => none
    | steps + 1, s => (p.step? s).bind fun next => run? steps next.1 next.2

end Progress

/-- Whether a text is a pattern. -/
def isPattern (s : List Char) : Bool :=
  match Progress.run? s.length {} s with
  | some p => p.outer.isEmpty && p.shape.height ≤ maxHeight
  | none => false

end Blueprint.Log.Pattern

import Blueprint.Log.Pattern.Escape

/-!
# Classes in patterns

A class in brackets has characters, ranges, named classes and further classes as members, and can be
combined with what follows an operator in it. What is wanted of a class is whether it is well formed
and how deeply its parts are nested.
-/

namespace Blueprint.Log.Pattern

/-- How deeply a sequence of parts is nested, given how deeply each of them is: two parts or more
are one level above the deepest. -/
def nest : List Nat → Nat
  | [] => 0
  | [height] => height
  | heights => 1 + heights.foldl max 0

/-! ## Members -/

/-- Reads a member of a class that is a character, or a class given by a letter, for which there is
none. -/
def readMember? (o : Options) : List Char → Option (Option Char × List Char)
  | [] => none
  | '\\' :: s =>
    match readEscape? o s with
    | some (.character c _, s) => if o.allowsMember c then some (some c, s) else none
    | some (.kind complement, s) => if o.allowsKind complement then some (none, s) else none
    | some (.place, _) | some (.boundary, _) | none => none
  | c :: s => if o.allowsMember c then some (some c, s) else none

/-- Skips a member of a class, or the range that starts with it. Both ends of a range are
characters, in ascending order. A dash before the closing bracket or before a dash makes no
range. -/
def skipMember? (o : Options) (s : List Char) : Option (List Char) := do
  let (first, s) ← readMember? o s
  match o.skip s with
  | '-' :: r =>
    let next := o.afterDash? r
    if next = some ']' ∨ next = some '-' then some ('-' :: r)
    else
      match first, ← readMember? o (o.skip r) with
      | some a, (some b, rest) => if a ≤ b then some rest else none
      | _, _ => none
  | s => some s

/-- The names of classes. -/
def classNames : List String :=
  ["alnum", "alpha", "ascii", "blank", "cntrl", "digit", "graph", "lower", "print", "punct",
    "space", "upper", "word", "xdigit"]

/-- Reads a class given by its name, after its bracket: whether its complement is meant. -/
def readNamed? : List Char → Option (Bool × List Char)
  | ':' :: s =>
    let (complement, s) := match s with
      | '^' :: s => (true, s)
      | s => (false, s)
    match s.dropWhile (· != ':') with
    | ':' :: ']' :: rest =>
      if classNames.contains (String.ofList (s.takeWhile (· != ':'))) then some (complement, rest)
      else none
    | _ => none
  | _ => none

/-! ## Classes -/

/-- What is read of a class. -/
structure Bracket where
  /-- How deeply what stands left of an operator is nested, if there is an operator. -/
  left : Option Nat := none
  /-- How deeply each member is nested, from the last one read. -/
  members : List Nat := []
  deriving DecidableEq, Repr

namespace Bracket

/-- Adds a member. -/
def add (b : Bracket) (height : Nat) : Bracket := { b with members := height :: b.members }

/-- How deeply the parts of a class are nested. -/
def height (b : Bracket) : Nat :=
  match b.left with
  | none => nest b.members
  | some left => 1 + max left (nest b.members)

/-- Makes what is read the left side of an operator. -/
def operate (b : Bracket) : Bracket := { left := some b.height }

/-- Reads the dashes that a class starts with, which are members, in at most so many steps. -/
def readDashes (o : Options) : Nat → Bracket → List Char → Bracket × List Char
  | steps + 1, b, '-' :: s => readDashes o steps (b.add 0) (o.skip s)
  | _, b, s => (b, s)

/-- Reads the start of a class after its bracket: the sign of a complement, and dashes or, if there
is none, a closing bracket that is a member. -/
def start? (o : Options) (s : List Char) : Option (Bracket × List Char) :=
  let (complement, s) := match o.skip s with
    | '^' :: s => (true, o.skip s)
    | s => (false, s)
  let (b, s) := readDashes o s.length {} s
  let (b, s) := match b.members, s with
    | [], ']' :: s => (b.add 0, s)
    | _, s => (b, s)
  if o.allowsClass complement ∧ (b.members = [] ∨ o.allowsMember '-') then some (b, s) else none

/-- Reads what is left of a class, in at most so many steps, given what is read of the classes
around it: how deeply the whole is nested. -/
def finish? (o : Options) : Nat → List Bracket → Bracket → List Char → Option (Nat × List Char)
  | 0, _, _, _ => none
  | steps + 1, outer, b, s =>
    match o.skip s with
    | [] => none
    | ']' :: s =>
      let height := 1 + b.height
      match outer with
      | [] => some (height, s)
      | around :: outer => finish? o steps outer (around.add height) s
    | '[' :: s =>
      match readNamed? s with
      | some (complement, s) =>
        if o.allowsNamed complement then finish? o steps outer (b.add 0) s else none
      | none => (start? o s).bind fun inner => finish? o steps (b :: outer) inner.1 inner.2
    | '&' :: '&' :: s | '-' :: '-' :: s | '~' :: '~' :: s => finish? o steps outer b.operate s
    | s => (skipMember? o s).bind (finish? o steps outer (b.add 0))

/-- Reads a class after its bracket: how deeply it is nested. -/
def read? (o : Options) (s : List Char) : Option (Nat × List Char) :=
  (start? o s).bind fun inner => finish? o (s.length + 1) [] inner.1 inner.2

end Bracket

end Blueprint.Log.Pattern

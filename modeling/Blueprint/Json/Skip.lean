import Blueprint.Json.Literal

/-!
# Skipping a value

A value that nobody asks for must still be well formed. Lists and objects that are open are kept on
a stack, so that they may be nested to any depth.
-/

namespace Blueprint.Json

/-- A list or an object that is open. -/
inductive Bracket where
  /-- A list. -/
  | list
  /-- An object. -/
  | object
  deriving DecidableEq, Repr

/-- What may come next. -/
inductive Awaited where
  /-- A value. -/
  | value
  /-- A key of an object. -/
  | key
  /-- The first item, or the end. -/
  | first
  /-- A comma, or the end. -/
  | separator
  deriving DecidableEq, Repr

namespace Bracket

/-- The character that ends a list or an object. -/
def close : Bracket → Char
  | list => ']'
  | object => '}'

/-- The fault of a text that ends within. -/
def unfinished : Bracket → Cause
  | list => .endInList
  | object => .endInObject

/-- The fault of an item that is followed by something else. -/
def noSeparator : Bracket → Cause
  | list => .noListSeparator
  | object => .noObjectSeparator

/-- What an item starts with. -/
def item : Bracket → Awaited
  | list => .value
  | object => .key

end Bracket

/-- Skips a value that is no list and no object, at its first character. -/
def skipScalar (c : Char) : Reader Unit := do
  if c = '-' ∨ c.isDigit then skipNumber
  else if c = '"' then
    let _ ← next
    skipText
  else if c = 'n' then word "null".toList
  else if c = 't' then word "true".toList
  else if c = 'f' then word "false".toList
  else failAhead .notAValue

/-- Skips a key and its colon. -/
def skipKey : Reader Unit := do
  skipSpaces
  match ← peek with
  | none => failHere .endInObject
  | some '"' =>
    let _ ← next
    skipText
  | some _ => failAhead .keyNotText
  skipSpaces
  match ← peek with
  | none => failHere .endInObject
  | some ':' =>
    let _ ← next
  | some _ => failAhead .noColon

/-- Skips what is awaited and closes what is open, in at most `fuel` steps. -/
def skipSteps : Nat → List Bracket → Awaited → Reader Unit
  | 0, _, _ => failHere .endInValue
  | fuel + 1, stack, .value => do
    skipSpaces
    match ← peek with
    | none => failHere .endInValue
    | some '[' =>
      let _ ← next
      skipSteps fuel (.list :: stack) .first
    | some '{' =>
      let _ ← next
      skipSteps fuel (.object :: stack) .first
    | some c =>
      skipScalar c
      skipSteps fuel stack .separator
  | fuel + 1, stack, .key => do
    skipKey
    skipSteps fuel stack .value
  | _ + 1, [], _ => pure ()
  | fuel + 1, b :: stack, .first => do
    skipSpaces
    match ← peek with
    | none => failHere b.unfinished
    | some c =>
      if c = b.close then
        let _ ← next
        skipSteps fuel stack .separator
      else skipSteps fuel (b :: stack) b.item
  | fuel + 1, b :: stack, .separator => do
    skipSpaces
    match ← peek with
    | none => failHere b.unfinished
    | some c =>
      if c = b.close then
        let _ ← next
        skipSteps fuel stack .separator
      else if c = ',' then
        let _ ← next
        skipSteps fuel (b :: stack) b.item
      else failAhead b.noSeparator

/-- Skips a value. -/
def skipValue : Reader Unit := do
  let n ← remaining
  skipSteps (2 * n + 2) [] .value

end Blueprint.Json

import Blueprint.Json.Record

/-!
# JSON values

A JSON text as a tree. An object keeps its members in order, and of members that share a key the
last one counts. Trees are read to a bounded depth.
-/

namespace Blueprint.Json

/-- A JSON value. -/
inductive Value where
  /-- The word `null`. -/
  | null
  /-- A truth value. -/
  | bool (b : Bool)
  /-- A number. -/
  | number (n : Number)
  /-- A text. -/
  | text (s : String)
  /-- A list. -/
  | list (items : List Value)
  /-- An object. -/
  | object (members : List (String × Value))

namespace Value

/-- A natural number. -/
def nat (n : Nat) : Value := .number (.integer n)

/-- A text, or `null`. -/
def optional {α : Type} (f : α → Value) : Option α → Value
  | some a => f a
  | none => .null

/-- The member of an object with a key. -/
def get? (v : Value) (key : String) : Option Value :=
  match v with
  | .object members => (members.reverse.find? (·.1 == key)).map (·.2)
  | _ => none

/-- Whether a value is a list. -/
def isList : Value → Bool
  | .list _ => true
  | _ => false

/-- How many lists and objects may be nested, and one. -/
def depthLimit : Nat := 128

/-- Reads at most `fuel` members of an object. -/
def readEntries (value : Reader Value) :
    Nat → Bool → List (String × Value) → Reader (List (String × Value))
  | 0, _, read => pure read.reverse
  | fuel + 1, isFirst, read => do
    if ← hasMember isFirst then
      let key ← readKey
      colon
      let v ← value
      readEntries value fuel false ((key, v) :: read)
    else pure read.reverse

/-- Reads a value in which fewer than `depth` lists and objects are nested. -/
def readWithin : Nat → Reader Value
  | 0 => failHere .tooDeep
  | depth + 1 => do
    skipSpaces
    match ← peek with
    | none => failHere .endInValue
    | some '[' =>
      if depth = 0 then failAhead .tooDeep
      else
        let _ ← next
        .list <$> readListBody (readWithin depth)
    | some '{' =>
      if depth = 0 then failAhead .tooDeep
      else
        let _ ← next
        let n ← remaining
        let members ← readEntries (readWithin depth) (n + 1) true []
        endObject
        pure (.object members)
    | some '"' =>
      let _ ← next
      .text <$> readText
    | some 'n' =>
      word "null".toList
      pure .null
    | some 't' =>
      word "true".toList
      pure (.bool true)
    | some 'f' =>
      word "false".toList
      pure (.bool false)
    | some c =>
      if c = '-' ∨ c.isDigit then .number <$> readSigned else failAhead .notAValue

/-- The value that a text stands for. -/
def ofText (text : String) : Except Error Value := (readWithin depthLimit).run? text

end Value

end Blueprint.Json

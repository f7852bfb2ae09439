import Blueprint.Json.Skip

/-!
# Reading typed values

Readers for numbers, texts, optional values, lists and records. A record is given by its fields in
order. It is read from an object, whose members come in any order and of which unknown ones are
skipped, or from a list that holds the fields in order and may stop early.

A field that is there twice, or not there though it has to be, is a fault of the record as a whole.
It is reported after the bracket that ends the record if that comes next, and else where the next
part stands.
-/

namespace Blueprint.Json

/-- Fails because something else than `expected` stands next. -/
def refuse {α : Type} (expected : String) : Reader α := do
  match ← peek with
  | some 'n' =>
    word "null".toList
    failHere (.wrongType .null expected)
  | some 't' =>
    word "true".toList
    failHere (.wrongType (.bool true) expected)
  | some 'f' =>
    word "false".toList
    failHere (.wrongType (.bool false) expected)
  | some '"' =>
    let _ ← next
    let s ← readText
    failHere (.wrongType (.text s) expected)
  | some '[' => failHere (.wrongType .list expected)
  | some '{' => failHere (.wrongType .object expected)
  | some c =>
    if c = '-' ∨ c.isDigit then
      let n ← readSigned
      failHere (.wrongType (.number n) expected)
    else failAhead .notAValue
  | none => failHere .endInValue

/-- Reads a signed number of 64 bits. -/
def readInt64 : Reader Int := do
  skipSpaces
  match ← peek with
  | none => failHere .endInValue
  | some c =>
    if c = '-' ∨ c.isDigit then
      match ← readSigned with
      | .integer i =>
        if i < signedLimit then pure i else failHere (.wrongValue (.number (.integer i)) "i64")
      | n => failHere (.wrongType (.number n) "i64")
    else refuse "i64"

/-- Reads a text. -/
def readString : Reader String := do
  skipSpaces
  match ← peek with
  | none => failHere .endInValue
  | some '"' =>
    let _ ← next
    readText
  | some _ => refuse "a string"

/-- Reads a value, or `null` for none. -/
def readOption {α : Type} (r : Reader α) : Reader (Option α) := do
  skipSpaces
  match ← peek with
  | some 'n' =>
    word "null".toList
    pure none
  | _ => some <$> r

/-! ## Lists -/

/-- Whether a list goes on. Takes the comma between items. -/
def hasItem (isFirst : Bool) : Reader Bool := do
  skipSpaces
  match ← peek with
  | none => failHere .endInList
  | some ']' => pure false
  | some c =>
    if isFirst then pure true
    else if c = ',' then
      let _ ← next
      skipSpaces
      match ← peek with
      | none => failHere .endInValue
      | some ']' => failAhead .trailingComma
      | some _ => pure true
    else failAhead .noListSeparator

/-- Takes the end of a list. -/
def endList : Reader Unit := do
  skipSpaces
  match ← peek with
  | none => failHere .endInList
  | some ']' =>
    let _ ← next
  | some ',' =>
    let _ ← next
    skipSpaces
    match ← peek with
    | some ']' => failAhead .trailingComma
    | _ => failAhead .trailingCharacters
  | some _ => failAhead .trailingCharacters

/-- Reads at most `fuel` items of a list. -/
def readItems {α : Type} (item : Reader α) : Nat → Bool → List α → Reader (List α)
  | 0, _, read => pure read.reverse
  | fuel + 1, isFirst, read => do
    if ← hasItem isFirst then
      let a ← item
      readItems item fuel false (a :: read)
    else pure read.reverse

/-- Reads a list after its bracket. -/
def readListBody {α : Type} (item : Reader α) : Reader (List α) := do
  let n ← remaining
  let items ← readItems item (n + 1) true []
  endList
  pure items

/-- Reads a list. -/
def readList {α : Type} (item : Reader α) : Reader (List α) := do
  skipSpaces
  match ← peek with
  | none => failHere .endInValue
  | some '[' =>
    let _ ← next
    readListBody item
  | some _ => refuse "a sequence"

/-! ## Records -/

/-- A field of a record. -/
structure Field (σ : Type) where
  /-- The key. -/
  key : String
  /-- Another spelling of the key. -/
  otherKey : Option String := none
  /-- Whether the field has to be there. -/
  isRequired : Bool := false
  /-- Reads the field into a record. -/
  read : Reader (σ → σ)

/-- Whether a field has a key. -/
def Field.hasKey {σ : Type} (f : Field σ) (key : String) : Bool :=
  f.key == key || f.otherKey == some key

/-- The shape of a record. -/
structure Shape (σ : Type) where
  /-- The name. -/
  name : String
  /-- The fields, in order. -/
  fields : List (Field σ)
  /-- The record in which no field is given. -/
  empty : σ

/-- Whether an object goes on. Takes the comma between members and stops before the key. -/
def hasMember (isFirst : Bool) : Reader Bool := do
  skipSpaces
  match ← peek with
  | none => failHere .endInObject
  | some '}' => pure false
  | some c =>
    if !isFirst then
      if c = ',' then
        let _ ← next
        skipSpaces
      else failAhead .noObjectSeparator
    match ← peek with
    | none => failHere .endInValue
    | some '"' => pure true
    | some '}' => failAhead .trailingComma
    | some _ => failAhead .keyNotText

/-- Reads a key. -/
def readKey : Reader String := do
  let _ ← next
  readText

/-- Takes the colon after a key. -/
def colon : Reader Unit := do
  skipSpaces
  match ← peek with
  | none => failHere .endInObject
  | some ':' =>
    let _ ← next
  | some _ => failAhead .noColon

/-- Takes the end of an object. -/
def endObject : Reader Unit := do
  skipSpaces
  match ← peek with
  | none => failHere .endInObject
  | some '}' =>
    let _ ← next
  | some ',' => failAhead .trailingComma
  | some _ => failAhead .trailingCharacters

/-- Reads fields of a record from a list, from the `index`-th on. -/
def readFields {σ : Type} (expected : String) :
    Nat → List (Field σ) → σ → Reader (Except Cause σ)
  | _, [], s => pure (.ok s)
  | index, f :: fs, s => do
    if ← hasItem (index == 0) then
      let set ← f.read
      readFields expected (index + 1) fs (set s)
    else if f.isRequired then pure (.error (.tooShort index expected))
    else readFields expected index fs s

/-- Reads at most `fuel` members of an object into a record. -/
def readMembers {σ : Type} (fields : List (Field σ)) :
    Nat → Bool → List String → σ → Reader (Except Cause (List String × σ))
  | 0, _, seen, s => pure (.ok (seen, s))
  | fuel + 1, isFirst, seen, s => do
    if ← hasMember isFirst then
      let key ← readKey
      match fields.find? (·.hasKey key) with
      | none =>
        colon
        skipValue
        readMembers fields fuel false seen s
      | some f =>
        if f.key ∈ seen then pure (.error (.duplicateField f.key))
        else
          colon
          let set ← f.read
          readMembers fields fuel false (f.key :: seen) (set s)
    else pure (.ok (seen, s))

/-- Fails with a fault of a whole record. -/
def failWhole {α : Type} (close : Reader Unit) (cause : Cause) : Reader α := fun c => do
  let (_, spaced) ← skipSpaces c
  match close c with
  | .ok (_, closed) => .error ⟨cause, closed.position⟩
  | .error _ => .error ⟨cause, spaced.position⟩

namespace Shape

variable {σ : Type} (shape : Shape σ)

/-- Reads a record from a list after its bracket. -/
def readFromList : Reader σ := do
  let expected :=
    "struct " ++ shape.name ++ " with " ++ toString shape.fields.length ++ " elements"
  match ← readFields expected 0 shape.fields shape.empty with
  | .ok s =>
    endList
    pure s
  | .error cause => failWhole endList cause

/-- Reads a record from an object after its bracket. -/
def readFromObject : Reader σ := do
  let n ← remaining
  match ← readMembers shape.fields (n + 1) true [] shape.empty with
  | .ok (seen, s) =>
    match shape.fields.find? fun f => f.isRequired && !seen.contains f.key with
    | none =>
      endObject
      pure s
    | some f => failWhole endObject (.missingField f.key)
  | .error cause => failWhole endObject cause

/-- Reads a record. -/
def read : Reader σ := do
  skipSpaces
  match ← peek with
  | none => failHere .endInValue
  | some '[' =>
    let _ ← next
    shape.readFromList
  | some '{' =>
    let _ ← next
    shape.readFromObject
  | some _ => refuse ("struct " ++ shape.name)

end Shape

end Blueprint.Json

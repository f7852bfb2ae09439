import Blueprint.Decimal.Shortest
import Blueprint.Text.Quoted

/-!
# Faults of a JSON text

Why a text cannot be read, and where. A position is a line, counted from one, and the number of
bytes of that line up to it.
-/

namespace Blueprint.Json

/-- A position in a text: how far it has been read. -/
structure Position where
  /-- The line, from one. -/
  line : Nat := 1
  /-- The bytes of the line before the position. -/
  column : Nat := 0
  deriving DecidableEq, Repr

/-- A number as it is read: whole if it is written so and fits 64 bits. -/
inductive Number where
  /-- A whole number, from `-2^63` to `2^64 - 1`. -/
  | integer (i : Int)
  /-- Any other number. -/
  | float (x : Float)
  deriving Repr

/-- What stands where something else is wanted. -/
inductive Found where
  /-- The word `null`. -/
  | null
  /-- A truth value. -/
  | bool (b : Bool)
  /-- A number. -/
  | number (n : Number)
  /-- A text. -/
  | text (s : String)
  /-- A list. -/
  | list
  /-- An object. -/
  | object
  deriving Repr

/-- What was found, in words. -/
def Found.describe : Found → String
  | null => "null"
  | bool b => "boolean `" ++ (if b then "true" else "false") ++ "`"
  | number (.integer i) => "integer `" ++ toString i ++ "`"
  | number (.float x) => "floating point `" ++ Decimal.text Decimal.messageLayout x ++ "`"
  | text s => "string " ++ Text.quoted s
  | list => "sequence"
  | object => "map"

/-- Why a text cannot be read. -/
inductive Cause where
  /-- The text ends where a value is wanted. -/
  | endInValue
  /-- The text ends within a list. -/
  | endInList
  /-- The text ends within an object. -/
  | endInObject
  /-- The text ends within a text in quotation marks. -/
  | endInText
  /-- No value starts like this. -/
  | notAValue
  /-- A word other than `null`, `true` and `false`. -/
  | notAWord
  /-- No colon follows a key. -/
  | noColon
  /-- Neither a comma nor the end follows an item of a list. -/
  | noListSeparator
  /-- Neither a comma nor the end follows a member of an object. -/
  | noObjectSeparator
  /-- A comma is followed by the end. -/
  | trailingComma
  /-- More follows the value. -/
  | trailingCharacters
  /-- A key is not in quotation marks. -/
  | keyNotText
  /-- A number is not well formed. -/
  | badNumber
  /-- A number is too large. -/
  | numberOutOfRange
  /-- An unknown escape, or one without its digits. -/
  | badEscape
  /-- A surrogate that is not the first of a pair. -/
  | loneSurrogate
  /-- A surrogate that is not followed by another escape. -/
  | unpairedSurrogate
  /-- A control character in a text in quotation marks. -/
  | controlCharacter
  /-- Lists and objects are nested too deep. -/
  | tooDeep
  /-- Something of another type stands there. -/
  | wrongType (found : Found) (expected : String)
  /-- Something of the right type, but out of bounds, stands there. -/
  | wrongValue (found : Found) (expected : String)
  /-- A field stands twice. -/
  | duplicateField (key : String)
  /-- A field is not there. -/
  | missingField (key : String)
  /-- A list holds too few fields. -/
  | tooShort (length : Nat) (expected : String)
  deriving Repr

/-- A cause in words. -/
def Cause.describe : Cause → String
  | endInValue => "EOF while parsing a value"
  | endInList => "EOF while parsing a list"
  | endInObject => "EOF while parsing an object"
  | endInText => "EOF while parsing a string"
  | notAValue => "expected value"
  | notAWord => "expected ident"
  | noColon => "expected `:`"
  | noListSeparator => "expected `,` or `]`"
  | noObjectSeparator => "expected `,` or `\x7d`"
  | trailingComma => "trailing comma"
  | trailingCharacters => "trailing characters"
  | keyNotText => "key must be a string"
  | badNumber => "invalid number"
  | numberOutOfRange => "number out of range"
  | badEscape => "invalid escape"
  | loneSurrogate => "lone leading surrogate in hex escape"
  | unpairedSurrogate => "unexpected end of hex escape"
  | controlCharacter => "control character (\\u0000-\\u001F) found while parsing a string"
  | tooDeep => "recursion limit exceeded"
  | wrongType found expected => "invalid type: " ++ found.describe ++ ", expected " ++ expected
  | wrongValue found expected => "invalid value: " ++ found.describe ++ ", expected " ++ expected
  | duplicateField key => "duplicate field `" ++ key ++ "`"
  | missingField key => "missing field `" ++ key ++ "`"
  | tooShort length expected => "invalid length " ++ toString length ++ ", expected " ++ expected

/-- A cause and its position. -/
structure Error where
  /-- What is wrong. -/
  cause : Cause
  /-- How far the text had been read. -/
  position : Position
  deriving Repr

/-- An error in words. -/
def Error.message (e : Error) : String :=
  e.cause.describe ++ " at line " ++ toString e.position.line ++ " column " ++
    toString e.position.column

end Blueprint.Json

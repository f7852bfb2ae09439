import Blueprint.Json.Value

/-!
# Writing JSON

The text of a value, on one line or laid out over several with two spaces for a level of nesting.
-/

namespace Blueprint.Json

/-- Four hexadecimal digits. -/
def fourHexDigits (n : Nat) : String :=
  let digits := Nat.toDigits 16 n
  String.ofList (List.replicate (4 - digits.length) '0' ++ digits)

/-- A character within quotation marks. -/
def escapeText (c : Char) : String :=
  if c = '"' then "\\\""
  else if c = '\\' then "\\\\"
  else if c = '\x08' then "\\b"
  else if c = '\x0c' then "\\f"
  else if c = '\n' then "\\n"
  else if c = '\r' then "\\r"
  else if c = '\t' then "\\t"
  else if c < ' ' then "\\u" ++ fourHexDigits c.toNat
  else String.singleton c

/-- A text within quotation marks. -/
def quote (s : String) : String := "\"" ++ String.join (s.toList.map escapeText) ++ "\""

/-- The text of a number. -/
def Number.text : Number → String
  | .integer i => toString i
  | .float x => Decimal.text Decimal.messageLayout x

namespace Value

mutual

/-- A value on one line. -/
def line : Value → String
  | .null => "null"
  | .bool b => if b then "true" else "false"
  | .number n => n.text
  | .text s => quote s
  | .list items => "[" ++ ",".intercalate (lineItems items) ++ "]"
  | .object members => "\x7b" ++ ",".intercalate (lineMembers members) ++ "\x7d"

/-- The items of a list on one line. -/
def lineItems : List Value → List String
  | [] => []
  | v :: vs => v.line :: lineItems vs

/-- The members of an object on one line. -/
def lineMembers : List (String × Value) → List String
  | [] => []
  | (key, v) :: ms => (quote key ++ ":" ++ v.line) :: lineMembers ms

end

/-- Items between brackets, each on a line of its own at a depth of nesting. -/
def block (opening closing : String) (depth : Nat) (items : List String) : String :=
  let indent (n : Nat) := String.ofList (List.replicate (2 * n) ' ')
  if items.isEmpty then opening ++ closing
  else
    opening ++ "\n" ++ ",\n".intercalate (items.map (indent (depth + 1) ++ ·)) ++ "\n" ++
      indent depth ++ closing

mutual

/-- A value over several lines, at a depth of nesting. -/
def layout (depth : Nat) : Value → String
  | .null => "null"
  | .bool b => if b then "true" else "false"
  | .number n => n.text
  | .text s => quote s
  | .list items => block "[" "]" depth (layoutItems (depth + 1) items)
  | .object members => block "\x7b" "\x7d" depth (layoutMembers (depth + 1) members)

/-- The items of a list over several lines. -/
def layoutItems (depth : Nat) : List Value → List String
  | [] => []
  | v :: vs => v.layout depth :: layoutItems depth vs

/-- The members of an object over several lines. -/
def layoutMembers (depth : Nat) : List (String × Value) → List String
  | [] => []
  | (key, v) :: ms => (quote key ++ ": " ++ v.layout depth) :: layoutMembers depth ms

end

/-- A value over several lines. -/
def pretty (v : Value) : String := v.layout 0

end Value

end Blueprint.Json

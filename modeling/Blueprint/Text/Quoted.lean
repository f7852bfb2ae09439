import Blueprint.Text.Blank
import Blueprint.Text.PrintTable

/-!
# Quoted text

A text between quotation marks in which every character can be seen: quotation marks, backslashes
and line ends are escaped, and what cannot be seen on its own is written by its code point.
-/

namespace Blueprint.Text

/-- A character by its code point. -/
def codePoint (c : Char) : String :=
  "\\u\x7b" ++ String.ofList (Nat.toDigits 16 c.toNat) ++ "\x7d"

/-- A character of a quoted text. -/
def escape (c : Char) : String :=
  if c = '\x00' then "\\0"
  else if c = '\t' then "\\t"
  else if c = '\r' then "\\r"
  else if c = '\n' then "\\n"
  else if c = '"' then "\\\""
  else if c = '\\' then "\\\\"
  else if inRanges unprintable c || inRanges fillers c || inRanges extending c then codePoint c
  else String.singleton c

/-- A text between quotation marks. -/
def quoted (s : String) : String := "\"" ++ String.join (s.toList.map escape) ++ "\""

end Blueprint.Text

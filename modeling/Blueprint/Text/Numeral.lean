/-!
# Numerals

Numbers as they are written: digits, digits after a plus sign, and decimals with a point and an
exponent.
-/

namespace Blueprint.Text

/-- The value of a decimal digit. -/
def digitValue (c : Char) : Nat := c.toNat - '0'.toNat

/-- The value of a hexadecimal digit. -/
def hexDigit? (c : Char) : Option Nat :=
  if '0' ≤ c ∧ c ≤ '9' then some (digitValue c)
  else if 'a' ≤ c ∧ c ≤ 'f' then some (c.toNat - 'a'.toNat + 10)
  else if 'A' ≤ c ∧ c ≤ 'F' then some (c.toNat - 'A'.toNat + 10)
  else none

/-- The greatest number of 64 bits. -/
def maxWord : Nat := 0xffffffffffffffff

/-- The value of digits, which may have a plus sign. -/
def numeral? (s : List Char) : Option Nat :=
  let digits := match s with
    | '+' :: r => r
    | r => r
  if digits.isEmpty ∨ !digits.all Char.isDigit then none
  else some (digits.foldl (fun n d => n * 10 + digitValue d) 0)

/-- The value of digits, which may have a plus sign, up to 64 bits. -/
def word? (s : List Char) : Option Nat := (numeral? s).filter (· ≤ maxWord)

/-- A text without the sign it may start with. -/
def dropSign : List Char → List Char
  | '+' :: r | '-' :: r => r
  | r => r

/-- Whether a text is an exponent of a decimal, or no text. -/
def isExponent : List Char → Bool
  | [] => true
  | c :: r =>
    let digits := dropSign r
    (c == 'e' || c == 'E') && !digits.isEmpty && digits.all Char.isDigit

/-- The words that stand where a decimal may, for what no decimal is. -/
def decimalWords : List String := ["inf", "infinity", "nan"]

/-- Whether a text is a decimal: a sign or none, digits with a point among, before or after them or
with none, and an exponent or none. A word may stand for all but the sign. -/
def isDecimal (s : List Char) : Bool :=
  let s := dropSign s
  let whole := s.takeWhile Char.isDigit
  let (fraction, rest) := match s.dropWhile Char.isDigit with
    | '.' :: r => (r.takeWhile Char.isDigit, r.dropWhile Char.isDigit)
    | r => ([], r)
  decimalWords.contains (String.ofList (s.map Char.toLower)) ||
    (!(whole ++ fraction).isEmpty && isExponent rest)

end Blueprint.Text

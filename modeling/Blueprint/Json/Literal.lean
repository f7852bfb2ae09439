import Blueprint.Json.Reader
import Blueprint.Text.Numeral

/-!
# Texts and numbers

The literals of a JSON text. Each can be read, which gives its value, or skipped. Skipping checks
less: escapes need not pair up, and numbers may be of any size.
-/

namespace Blueprint.Json

/-- The position some bytes further, if there are that many. -/
def Position.skipBytes? (p : Position) : Nat → List Char → Option Position
  | 0, _ => some p
  | _ + 1, [] => none
  | n + 1, c :: r =>
    if c.utf8Size ≤ n + 1 then (p.after c).skipBytes? (n + 1 - c.utf8Size) r
    else some ⟨p.line, p.column + n + 1⟩

/-- Reads the four digits of an escape. -/
def readHex : Reader Nat := fun c =>
  match (c.rest.take 4).mapM Text.hexDigit? with
  | some [a, b, d, e] =>
    .ok (((a * 16 + b) * 16 + d) * 16 + e,
      ⟨(c.rest.take 4).foldl Position.after c.position, c.rest.drop 4⟩)
  | _ =>
    match c.position.skipBytes? 4 c.rest with
    | some p => .error ⟨.badEscape, p⟩
    | none => .error ⟨.endInText, c.rest.foldl Position.after c.position⟩

/-- Takes a character of the escape that has to follow the first half of a pair. -/
def followUp (wanted : Char) : Reader Unit := do
  match ← peek with
  | none => failHere .endInText
  | some c => if c = wanted then do let _ ← next else failAhead .unpairedSurrogate

/-- Reads the digits of an escaped character, and of the second half of a pair. -/
def readCodePoint : Reader Char := do
  let n ← readHex
  if 0xdc00 ≤ n ∧ n ≤ 0xdfff then failHere .loneSurrogate
  else if 0xd800 ≤ n ∧ n ≤ 0xdbff then
    followUp '\\'
    followUp 'u'
    let m ← readHex
    if 0xdc00 ≤ m ∧ m ≤ 0xdfff then
      pure (Char.ofNat (0x10000 + (n - 0xd800) * 0x400 + (m - 0xdc00)))
    else failHere .loneSurrogate
  else pure (Char.ofNat n)

/-- The character that a one-letter escape stands for. -/
def simpleEscape? (c : Char) : Option Char :=
  if c = '"' ∨ c = '\\' ∨ c = '/' then some c
  else if c = 'b' then some '\x08'
  else if c = 'f' then some '\x0c'
  else if c = 'n' then some '\n'
  else if c = 'r' then some '\r'
  else if c = 't' then some '\t'
  else none

/-- Reads what follows a backslash, the digits of a code point with `digits`. -/
def escapeWith {α : Type} (simple : Char → α) (digits : Reader α) : Reader α := do
  match ← peek with
  | none => failHere .endInText
  | some 'u' =>
    let _ ← next
    digits
  | some c =>
    match simpleEscape? c with
    | some d =>
      let _ ← next
      pure (simple d)
    | none => failAhead .badEscape

/-- Reads at most `fuel` characters of a text and the quotation mark that ends it. -/
def readTextSteps : Nat → List Char → Reader String
  | 0, _ => failHere .endInText
  | fuel + 1, read => do
    match ← next with
    | none => failHere .endInText
    | some '"' => pure (String.ofList read.reverse)
    | some '\\' =>
      let c ← escapeWith id readCodePoint
      readTextSteps fuel (c :: read)
    | some c => if c < ' ' then failHere .controlCharacter else readTextSteps fuel (c :: read)

/-- Reads a text after its first quotation mark. -/
def readText : Reader String := do
  let n ← remaining
  readTextSteps (n + 1) []

/-- Skips at most `fuel` characters of a text and the quotation mark that ends it. -/
def skipTextSteps : Nat → Reader Unit
  | 0 => failHere .endInText
  | fuel + 1 => do
    match ← peek with
    | none => failHere .endInText
    | some '"' =>
      let _ ← next
    | some '\\' =>
      let _ ← next
      escapeWith (fun _ => ()) (do let _ ← readHex)
      skipTextSteps fuel
    | some c =>
      if c < ' ' then failHere .controlCharacter
      else
        let _ ← next
        skipTextSteps fuel

/-- Skips a text after its first quotation mark. -/
def skipText : Reader Unit := do
  let n ← remaining
  skipTextSteps (n + 1)

/-! ## Numbers -/

/-- The least natural number that is no signed number of 64 bits. -/
def signedLimit : Nat := 0x8000000000000000

/-- The greatest exponent that is told from a greater one. -/
def maxExponent : Nat := 0x7fffffff

/-- Appends digits to a number as long as it stays within a bound, and counts those appended. -/
def absorb (bound : Nat) : Nat → List Char → Nat × Nat
  | n, [] => (n, 0)
  | n, d :: ds =>
    let m := n * 10 + Text.digitValue d
    if bound < m then (n, 0) else ((absorb bound m ds).1, (absorb bound m ds).2 + 1)

/-- A power of ten with an exponent of at most 308. -/
def powerOfTen (k : Nat) : Float := Float.ofScientific 1 false k

/-- The quotient `x / 10^k`, in steps that a floating-point number can take. -/
def divideByPower (x : Float) (k : Nat) : Float :=
  if k ≤ 308 then x / powerOfTen k
  else if x == 0 then x
  else divideByPower (x / powerOfTen 308) (k - 308)
termination_by k

/-- The number `n · 10^e`, if it is in range. -/
def scaled? (n : Nat) (e : Int) : Option Float :=
  let x := n.toUInt64.toFloat
  if e < 0 then some (divideByPower x e.natAbs)
  else if e ≤ 308 then
    let y := x * powerOfTen e.toNat
    if y.isInf then none else some y
  else if x == 0 then some x
  else none

/-- A number with its sign. -/
def signed (negative : Bool) (x : Float) : Float := if negative then -x else x

/-- The value of a number from its digits, at the position after it. -/
def valueOf (negative : Bool) (n : Nat) (e : Int) : Reader Float :=
  match scaled? n e with
  | some x => pure (signed negative x)
  | none => failHere .numberOutOfRange

/-- Reads the sign of an exponent. True if it is negative. -/
def exponentSign : Reader Bool := do
  match ← peek with
  | some '+' =>
    let _ ← next
    pure false
  | some '-' =>
    let _ ← next
    pure true
  | _ => pure false

/-- Reads an exponent after its letter, and gives the value of `n · 10^e` scaled by it. -/
def readExponent (negative : Bool) (n : Nat) (e : Int) : Reader Float := do
  let down ← exponentSign
  match ← peek with
  | none => failHere .endInValue
  | some c =>
    if !c.isDigit then failAhead .badNumber
    else
      let start ← get
      let digits ← takeWhile Char.isDigit
      let (k, used) := absorb maxExponent 0 digits
      if used = digits.length then valueOf negative n (if down then e - k else e + k)
      else if n ≠ 0 ∧ !down then
        set (⟨(digits.take (used + 1)).foldl Position.after start.position,
          start.rest.drop (used + 1)⟩ : Cursor)
        failHere .numberOutOfRange
      else pure (signed negative 0)

/-- Reads what may follow the digits of a number: its exponent. -/
def readAfterDigits (negative : Bool) (n : Nat) (e : Int) : Reader Float := do
  match ← peek with
  | some 'e' | some 'E' =>
    let _ ← next
    readExponent negative n e
  | _ => valueOf negative n e

/-- Reads a fraction after its point. -/
def readFraction (negative : Bool) (n : Nat) (e : Int) : Reader Float := do
  let digits ← takeWhile Char.isDigit
  if digits.isEmpty then
    match ← peek with
    | none => failHere .endInValue
    | some _ => failAhead .badNumber
  else
    let (m, used) := absorb Text.maxWord n digits
    readAfterDigits negative m (e - used)

/-- Reads the digits before the point. A zero stands alone. -/
def wholeDigits : Reader (List Char) := do
  match ← peek with
  | none => failHere .endInValue
  | some '0' =>
    let _ ← next
    match ← peek with
    | some c => if c.isDigit then failAhead .badNumber else pure ['0']
    | none => pure ['0']
  | some c => if c.isDigit then takeWhile Char.isDigit else failAhead .badNumber

/-- The number that whole digits give. Zero with a sign, and what does not fit, is no integer. -/
def wholeNumber (negative : Bool) (n : Nat) : Number :=
  if !negative then .integer n
  else if n = 0 ∨ signedLimit < n then .float (-n.toUInt64.toFloat)
  else .integer (-n)

/-- Reads a number after its sign. -/
def readNumber (negative : Bool) : Reader Number := do
  let digits ← wholeDigits
  let (n, used) := absorb Text.maxWord 0 digits
  let dropped : Int := digits.length - used
  match ← peek with
  | some '.' =>
    let _ ← next
    return .float (← readFraction negative n dropped)
  | some 'e' | some 'E' =>
    let _ ← next
    return .float (← readExponent negative n dropped)
  | _ =>
    if dropped = 0 then pure (wholeNumber negative n)
    else return .float (← valueOf negative n dropped)

/-- Reads a number at its first character. -/
def readSigned : Reader Number := do
  match ← peek with
  | some '-' =>
    let _ ← next
    readNumber true
  | _ => readNumber false

/-- Skips at least one digit. -/
def skipDigits : Reader Unit := do
  match ← peek with
  | some c =>
    if c.isDigit then do let _ ← takeWhile Char.isDigit else failAhead .badNumber
  | none => failHere .badNumber

/-- Skips an exponent, if there is one. -/
def skipExponent : Reader Unit := do
  match ← peek with
  | some 'e' | some 'E' =>
    let _ ← next
    let _ ← exponentSign
    skipDigits
  | _ => pure ()

/-- Skips a number at its first character. -/
def skipNumber : Reader Unit := do
  match ← peek with
  | some '-' =>
    let _ ← next
  | _ => pure ()
  match ← peek with
  | none => failHere .badNumber
  | some _ =>
    let _ ← wholeDigits
  match ← peek with
  | some '.' =>
    let _ ← next
    skipDigits
    skipExponent
  | _ => skipExponent

end Blueprint.Json

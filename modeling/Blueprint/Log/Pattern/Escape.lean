import Blueprint.Log.Pattern.Options
import Blueprint.Text.Numeral

/-!
# Escapes in patterns

What a backslash and the characters behind it stand for.
-/

namespace Blueprint.Log.Pattern

/-- What an escape stands for. -/
inductive Escape where
  /-- A character, given by itself, by a letter or by its code. -/
  | character (c : Char) (byte : Bool)
  /-- A class of characters, or its complement. -/
  | kind (complement : Bool)
  /-- The start or the end of the text. -/
  | place
  /-- A boundary of words, or a place that is none. -/
  | boundary
  deriving DecidableEq, Repr

/-- Letters that stand for characters that cannot be seen. -/
def controls : List (Char × Char) :=
  [('a', '\x07'), ('f', '\x0c'), ('t', '\t'), ('n', '\n'), ('r', '\r'), ('v', '\x0b')]

/-- Letters that stand for classes. -/
def kinds : List Char := ['d', 's', 'w']

/-- Letters that stand for the complements of classes. -/
def complements : List Char := ['D', 'S', 'W']

/-- Reads so many hexadecimal digits after those that are read. Blanks may stand among them. -/
def readDigits? (o : Options) : Nat → Nat → List Char → Option (Nat × List Char)
  | 0, code, s => some (code, s)
  | _ + 1, _, [] => none
  | n + 1, code, c :: s => do
    let digit ← Text.hexDigit? c
    readDigits? o n (code * 16 + digit) (o.skip s)

/-- Reads a character given by its code, of so many digits. Two digits are the code of a byte. -/
def readCode? (o : Options) (width : Nat) (s : List Char) : Option (Escape × List Char) := do
  let (code, rest) ← readDigits? o width 0 (o.skip s)
  if code.isValidChar then some (.character (Char.ofNat code) (width == 2), rest) else none

/-- Reads an escape after its backslash. Classes given by the names of properties are refused, for
there are no tables of them. -/
def readEscape? (o : Options) : List Char → Option (Escape × List Char)
  | [] => none
  | 'x' :: s => readCode? o 2 s
  | 'u' :: s => readCode? o 4 s
  | 'U' :: s => readCode? o 8 s
  | 'A' :: s | 'z' :: s => some (.place, s)
  | 'b' :: s | 'B' :: s | '<' :: s | '>' :: s => some (.boundary, s)
  | c :: s =>
    if c ∈ kinds then some (.kind false, s)
    else if c ∈ complements then some (.kind true, s)
    else
      match controls.lookup c with
      | some control => some (.character control false, s)
      | none =>
        if c.isAlphanum ∨ 0x80 ≤ c.toNat then none else some (.character c false, s)

end Blueprint.Log.Pattern

import Blueprint.Text.Blank
import Blueprint.Text.CaseTable

/-!
# Lower case

Unicode's lower-case form of a text. Most characters are mapped on their own. Two are not: a capital
I with a dot becomes two characters, and a capital sigma that ends a word becomes a final sigma. It
ends a word if the nearest character before it that counts is a letter with a case, and the nearest
one after it is not.
-/

namespace Blueprint.Text

/-- The lower-case letter of a character, or the character itself. -/
def lowerChar (c : Char) : Char :=
  let n := c.toNat
  match caseRuns.find? fun r => r.first ≤ n && n ≤ r.last && (n - r.first) % r.step == 0 with
  | some r => Char.ofNat (n - r.first + r.lower)
  | none => c

/-- Whether the first character of a text that counts for casing has a case. -/
def startsCased (s : List Char) : Bool :=
  match s.dropWhile (inRanges caseIgnorable) with
  | [] => false
  | c :: _ => inRanges casedOnly c

/-- The lower-case form of a character between `before`, nearest character first, and `after`. -/
def lowerIn (before : List Char) (c : Char) (after : List Char) : List Char :=
  if c = 'Σ' then [if startsCased before && !startsCased after then 'ς' else 'σ']
  else if c = 'İ' then ['i', '\u0307']
  else [lowerChar c]

/-- The lower-case form of a text that follows `before`, nearest character first. -/
def lowerAfter (before : List Char) : List Char → List Char
  | [] => []
  | c :: r => lowerIn before c r ++ lowerAfter (c :: before) r

/-- The lower-case form of a text. -/
def lower (s : String) : String := String.ofList (lowerAfter [] s.toList)

end Blueprint.Text

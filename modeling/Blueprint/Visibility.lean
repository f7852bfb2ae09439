/-!
# Visibility

Who may see a class or a member. A declaration line may open with a marker character for it.
-/

namespace Blueprint

/-- Who may see a class or a member. -/
inductive Visibility where
  /-- Everyone. -/
  | pub
  /-- The class alone. -/
  | priv
  /-- The class and those that extend it. -/
  | prot
  deriving DecidableEq, Repr

namespace Visibility

/-- The visibility that a marker character stands for. -/
def ofMarker? (c : Char) : Option Visibility :=
  if c = '+' then some .pub
  else if c = '-' then some .priv
  else if c = '*' then some .prot
  else none

/-- The marker character. -/
def marker : Visibility → Char
  | .pub => '+'
  | .priv => '-'
  | .prot => '*'

/-- The keyword in a class source. -/
def keyword : Visibility → String
  | .pub => "public"
  | .priv => "private"
  | .prot => "protected"

theorem ofMarker?_marker (v : Visibility) : ofMarker? v.marker = some v := by
  cases v <;> rfl

end Visibility

end Blueprint

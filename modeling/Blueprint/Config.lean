import Blueprint.Text.Blank

/-!
# Settings of the output

The package that class sources belong to, and how far a level of nesting is indented.
-/

namespace Blueprint

/-- Settings of the output. -/
structure Config where
  /-- The package of the class sources. -/
  package : Option String := none
  /-- Spaces for a level of nesting. -/
  indent : Nat := 4
  deriving DecidableEq, Repr

namespace Config

/-- Sets the package. A blank name means no package. -/
def withPackage (c : Config) (package : String) : Config :=
  let name := Text.trim package
  { c with package := if name = "" then none else some name }

/-- The spaces that a line at a depth of nesting starts with. -/
def indentation (c : Config) (depth : Nat) : String :=
  String.ofList (List.replicate (c.indent * depth) ' ')

end Config

end Blueprint

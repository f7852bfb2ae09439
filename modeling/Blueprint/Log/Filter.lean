import Blueprint.Log.Directive

/-!
# Log filters

A filter is a list of directives, separated by commas. Of two that speak of the same, the later one
counts.

A directive without a scope, and without a demand on a value, speaks of all that comes from parts of
the program whose names start with its origin, and of the records among it only if they have its
field. The one that speaks of something most closely decides whether it is shown.

A directive with a scope or a field speaks of the scopes of that name, with that field. They are
opened, unless no directive shows their level, and if its demand is met, what lies in them is shown
up to its level.
-/

namespace Blueprint.Log

namespace Directive

/-- Whether a directive speaks of a part of the program. -/
def covers (d : Directive) (o : Origin) : Bool :=
  match d.origin with
  | none => true
  | some start => start.toList.isPrefixOf o.name.toList

/-- Whether a directive asks something of a value. -/
def asksValue (d : Directive) : Bool := d.field.any (·.demand != .anything)

/-- Whether two directives speak of the same. -/
def alike (d e : Directive) : Bool :=
  d.origin == e.origin && d.scope == e.scope && d.field == e.field

/-- Whether a directive decides what is shown. -/
def isGeneral (d : Directive) : Bool := d.scope.isNone && !d.asksValue

/-- How closely a directive names the part of the program it speaks of. -/
def closeness (d : Directive) : Nat :=
  match d.origin with
  | none => 0
  | some start => start.utf8ByteSize + 1

/-- Whether a directive speaks more closely than another: by its origin, or with a field and the
other without one, or by the order of the fields' names. -/
def closerThan (d e : Directive) : Bool :=
  if d.closeness = e.closeness then
    match d.field, e.field with
    | some f, some g => g.name < f.name
    | some _, none => true
    | none, _ => false
  else e.closeness < d.closeness

/-- Whether a directive speaks of a record. -/
def coversRecord (d : Directive) (r : Record) : Bool :=
  d.covers r.origin && d.field.all fun f => r.hasField f.name

/-- Whether a directive with a scope or a field speaks of a scope. -/
def names (d : Directive) (s : Span) : Bool :=
  (d.scope.isSome || d.field.isSome) && d.covers s.origin && d.scope.all (· == s.name) &&
    d.field.all fun f => (s.data.lookup f.name).isSome

/-- Whether a scope meets what a directive asks of a value. -/
def metBy (d : Directive) (s : Span) : Bool :=
  d.field.all fun f =>
    match f.demand with
    | .anything => true
    | .number n => s.data.lookup f.name == some (.nat n)
    | .unlikeNumbers => false

end Directive

/-- What a log shows. -/
abbrev Filter := List Directive

namespace Filter

/-- The filter that shows a level and all that matter more. -/
def ofLevel (l : Level) : Filter := [{ detail := l.detail }]

/-- The filter that a text describes. -/
def ofText? (text : String) : Option Filter :=
  ((text.toList.splitOn ',').filter (!·.isEmpty)).mapM Directive.ofText?

/-- The directives that count. -/
def counting : Filter → Filter
  | [] => []
  | d :: f => if f.any d.alike then counting f else d :: counting f

/-- The detail that the closest of the general directives with a property shows, and 0 if there is
none. -/
def closestDetail (f : Filter) (speaks : Directive → Bool) : Nat :=
  let speaking := f.counting.filter fun d => d.isGeneral && speaks d
  let closest := speaking.foldl
    (fun (best : Option Directive) d =>
      match best with
      | none => some d
      | some b => if d.closerThan b then some d else some b)
    none
  (closest.map Directive.detail).getD 0

/-- Whether a record is shown for what it is. -/
def showsRecord (f : Filter) (r : Record) : Bool :=
  r.level.detail ≤ f.closestDetail (·.coversRecord r)

/-- Whether a scope is shown for what it is. -/
def showsSpan (f : Filter) (s : Span) : Bool :=
  spanLevel.detail ≤ f.closestDetail (·.covers s.origin)

/-- The greatest detail that anything may be shown in. Which values are asked for is known only when
a scope is opened, so that a directive that asks leaves everything open. -/
def greatestDetail (f : Filter) : Nat :=
  if f.any Directive.asksValue then Level.trace.detail
  else (f.map Directive.detail).foldl max 0

/-- The detail shown within a scope, if a directive names it. -/
def detailIn? (f : Filter) (s : Span) : Option Nat :=
  let naming := f.counting.filter (·.names s)
  if naming.isEmpty then none
  else some (((naming.filter (·.metBy s)).map Directive.detail).foldl max 0)

end Filter

end Blueprint.Log

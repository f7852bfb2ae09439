/-!
# Fresh names

Columns, fields and parameters must not share a name with an earlier one of the same owner. A name
that is taken is followed by a separator and the least number, counted from two, that makes it free.

The search tries one number after the other and has no bound of its own: it goes on for as long as
it meets taken names, or until its counter can hold no further number. Among as many numbers as
there are taken names one is always free, because the wanted name itself is taken and different
numbers give different names. So that many turns are enough.
-/

namespace Blueprint

/-- The `n`-th substitute for a name that is taken. -/
def numbered (base separator : String) (n : Nat) : String := base ++ separator ++ toString n

/-- Where the search for a free name stands. -/
inductive Search
  /-- The substitute of this number is the next to be tried. -/
  | trying (n : Nat)
  | found (name : String)
  /-- The last number of the counter has been tried in vain. -/
  | overflow
  deriving DecidableEq, Repr

namespace Search

section Turns

variable (last : Option Nat) (base separator : String) (taken : String → Bool)

/-- The wanted name comes first, its substitutes are counted from two. -/
def start : Search := if taken base then trying 2 else found base

/-- One turn of the search. The numbers end with `last`, unless that is `none`. -/
def step : Search → Search
  | trying n =>
    if taken (numbered base separator n) then
      if last = some n then overflow else trying (n + 1)
    else
      found (numbered base separator n)
  | ended => ended

/-- So many turns of the search. -/
def run : Nat → Search → Search
  | 0, s => s
  | turns + 1, s => run turns (s.step last base separator taken)

end Turns

/-- The name found. -/
def name? : Search → Option String
  | found name => some name
  | _ => none

end Search

/-- The search for a name that is not taken, after so many turns. -/
def search (last : Option Nat) (base separator : String) (taken : String → Bool) (turns : Nat) :
    Search :=
  (Search.start base taken).run last base separator taken turns

/-- The name `base` if it is free, else the first free one of `base` numbered from two. The length
of the list bounds the numbers, so the counter needs no last one. -/
def freshName (base separator : String) (taken : List String) : String :=
  (search none base separator taken.contains taken.length).name?.getD base

/-- Names for wanted ones, each different from the names before it and from those taken. -/
def freshNames (separator : String) (taken : List String) : List String → List String
  | [] => []
  | wanted :: more =>
    let name := freshName wanted separator taken
    name :: freshNames separator (taken ++ [name]) more

end Blueprint

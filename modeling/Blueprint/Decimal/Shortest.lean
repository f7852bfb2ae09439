/-!
# Shortest decimals

The shortest decimal that reads back as a given binary floating-point number, and its text.

A finite number is `m · 2^q`. The reals that round to it form an interval around it, which holds its
ends iff `m` is even. Among the decimals in that interval the ones with the fewest digits are
wanted, and of these the one nearest to the number, the even one of two that are equally near. A
grid `10^k` has a point in the interval iff one of the two neighbours of the number on that grid is
such a point; so it is enough to try the neighbours on ever finer grids. Seventeen digits always
suffice.
-/

namespace Blueprint

/-- The decimal `coefficient · 10^exponent`. -/
structure Decimal where
  /-- The digits. -/
  coefficient : Nat
  /-- The power of ten. -/
  exponent : Int
  deriving DecidableEq, Repr

namespace Decimal

/-- A number and the ends of the interval of reals that round to it, over a common denominator. -/
structure Interval where
  /-- The lower end. -/
  low : Nat
  /-- The number. -/
  value : Nat
  /-- The upper end. -/
  high : Nat
  /-- The denominator. -/
  unit : Nat
  /-- Whether the ends round to the number. -/
  closed : Bool
  deriving DecidableEq, Repr

namespace Interval

/-- The interval around `m · 2^q`. Below a power of two, `isPower`, the numbers lie denser. -/
def around (m : Nat) (q : Int) (isPower : Bool) : Interval :=
  let scale := Nat.pow 2 (q - 2).toNat
  { low := (4 * m - (if isPower then 1 else 2)) * scale
    value := 4 * m * scale
    high := (4 * m + 2) * scale
    unit := Nat.pow 2 (2 - q).toNat
    closed := m % 2 == 0 }

/-- The interval measured in units of `10^k`. -/
def onGrid (i : Interval) (k : Int) : Interval :=
  let scale := Nat.pow 10 (-k).toNat
  { low := i.low * scale, value := i.value * scale, high := i.high * scale,
    unit := i.unit * Nat.pow 10 k.toNat, closed := i.closed }

/-- Whether a whole number of units lies in the interval. -/
def holds (i : Interval) (c : Nat) : Bool :=
  let p := c * i.unit
  if i.closed then i.low ≤ p && p ≤ i.high else i.low < p && p < i.high

/-- The nearer of the whole numbers of units below and above the number, the even one halfway
between them. -/
def nearer (i : Interval) : Nat :=
  let below := i.value / i.unit
  let twice := 2 * (i.value % i.unit)
  if twice < i.unit ∨ twice = i.unit ∧ below % 2 = 0 then below else below + 1

/-- The whole number of units in the interval that is nearest to the number. -/
def nearest? (i : Interval) : Option Nat :=
  let below := i.value / i.unit
  match i.holds below, i.holds (below + 1) with
  | true, true => some i.nearer
  | true, false => some below
  | false, true => some (below + 1)
  | false, false => none

/-- The exponent of the number's first decimal digit. -/
def leadingExponent (i : Interval) : Int :=
  if i.unit ≤ i.value then ((toString (i.value / i.unit)).length : Int) - 1
  else
    -(((List.range 400).find? fun j => i.unit ≤ i.value * Nat.pow 10 j).getD 400 : Nat)

end Interval

/-- A decimal without zeros at its end, with at most `fuel` of them taken off. -/
def dropZeros : Nat → Decimal → Decimal
  | 0, d => d
  | fuel + 1, d =>
    if d.coefficient ≠ 0 ∧ d.coefficient % 10 = 0 then
      dropZeros fuel ⟨d.coefficient / 10, d.exponent + 1⟩
    else d

/-- The shortest decimal in an interval, and of these the one nearest to the number. -/
def shortest (i : Interval) : Decimal :=
  let lead := i.leadingExponent
  let grids := (List.range 18).map fun (n : Nat) => lead - (n : Int)
  match grids.findSome? fun k => ((i.onGrid k).nearest?).map (Decimal.mk · k) with
  | some d => dropZeros 20 d
  | none => ⟨i.value / i.unit, 0⟩

/-- How decimals are laid out: positional for the exponents of the first digit within bounds, with a
fraction of at least one digit; else one digit before the point, if there are more, and an exponent
with its sign. -/
structure Layout where
  /-- The least exponent written positionally. -/
  least : Int
  /-- The greatest exponent written positionally. -/
  greatest : Int

/-- The layout of numbers in messages. -/
def messageLayout : Layout := ⟨-5, 15⟩

/-- The text of a decimal that is not zero. -/
def Layout.text (l : Layout) (d : Decimal) : String :=
  let digits := (toString d.coefficient).toList
  let lead := d.exponent + (digits.length : Int) - 1
  let zeros (n : Int) := List.replicate n.toNat '0'
  if l.least ≤ lead ∧ lead ≤ l.greatest then
    if 0 ≤ d.exponent then String.ofList (digits ++ zeros d.exponent) ++ ".0"
    else if 0 ≤ lead then
      let whole := lead.toNat + 1
      String.ofList (digits.take whole ++ '.' :: digits.drop whole)
    else "0." ++ String.ofList (zeros (-lead - 1) ++ digits)
  else
    let mantissa := match digits with
      | first :: second :: more => first :: '.' :: second :: more
      | short => short
    let sign := if lead < 0 then "e-" else "e+"
    String.ofList mantissa ++ sign ++ toString lead.natAbs

/-- The bit above the 52 bits of a fraction. -/
def fractionLimit : Nat := 0x10000000000000

/-- The bit of the sign. -/
def signBit : Nat := 0x8000000000000000

/-- The text of a binary floating-point number, from its bits. -/
def text (l : Layout) (x : Float) : String :=
  let bits := x.toBits.toNat
  let sign := if bits / signBit = 1 then "-" else ""
  let biased : Nat := bits / fractionLimit % 2048
  let fraction := bits % fractionLimit
  if biased = 0 ∧ fraction = 0 then sign ++ "0.0"
  else if biased = 0 then sign ++ l.text (shortest (.around fraction (-1074) false))
  else
    let q : Int := (biased : Int) - 1075
    sign ++ l.text (shortest (.around (fractionLimit + fraction) q (fraction = 0 ∧ 1 < biased)))

end Decimal

end Blueprint

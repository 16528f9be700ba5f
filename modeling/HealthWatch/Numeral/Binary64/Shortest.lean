import HealthWatch.Numeral.Binary64
import HealthWatch.Numeral.Decimal

/-!
# Shortest decimals

`Binary64.render` writes a number with the fewest digits that read back as the same number, always
positionally: no exponent, and no fraction for a whole number. Of two decimals with the fewest
digits the nearer is taken, and of two equally near ones the greater.
-/

namespace HealthWatch.Numeral.Binary64

/-- The decimals that read back as one number, in quarters of a unit: all between `low` and `high`,
with the ends if `closed`. -/
structure Interval where
  low : Nat
  middle : Nat
  high : Nat
  closed : Bool

/-- The interval around a magnitude reaches half way to its neighbours. The neighbour below a power
of two is twice as near as the one above. -/
def Interval.around (units : Nat) : Interval :=
  let gap := Nat.pow 2 (slack units)
  let atPower := decide (0 < slack units) && units == Nat.pow 2 52 * gap
  { low := 4 * units - (if atPower then gap else 2 * gap)
    middle := 4 * units
    high := 4 * units + 2 * gap
    closed := units / gap % 2 == 0 }

structure Decimal where
  significand : Nat
  exponent : Int

/-- The denominator and numerator that bring quarters of units and multiples of `10 ^ exponent` to
one scale. -/
def scales (exponent : Int) : Nat × Nat :=
  (if exponent < 0 then Nat.pow 10 exponent.natAbs else 1,
    4 * one * if exponent < 0 then 1 else Nat.pow 10 exponent.toNat)

def Interval.contains (i : Interval) (significand : Nat) (exponent : Int) : Bool :=
  let (a, b) := scales exponent
  let x := significand * b
  if i.closed then decide (i.low * a ≤ x) && decide (x ≤ i.high * a)
  else decide (i.low * a < x) && decide (x < i.high * a)

/-- The multiple of `10 ^ exponent` in the interval that is nearest to its middle, if there is one:
one of the two neighbours of the middle. -/
def Interval.pick? (i : Interval) (exponent : Int) : Option Nat :=
  let (a, b) := scales exponent
  let below := i.middle * a / b
  let rest := i.middle * a % b
  match i.contains below exponent, i.contains (below + 1) exponent with
  | true, true => some (if 2 * rest < b then below else below + 1)
  | true, false => some below
  | false, true => some (below + 1)
  | false, false => none

/-- Tries `count` grids, each ten times finer than the one before. -/
def Interval.search (i : Interval) (exponent : Int) : Nat → Decimal
  | 0 => ⟨i.middle * (scales exponent).1 / (scales exponent).2, exponent⟩
  | count + 1 =>
    match i.pick? exponent with
    | some d => ⟨d, exponent⟩
    | none => i.search (exponent - 1) count

/-- A power of ten above the magnitude: `units / 2 ^ 1074` is below `2 ^ (log2 units - 1073)`. -/
def exponentAbove (units : Nat) : Int :=
  (units.log2 - 1073 : Int) * 30103 / 100000 + 1

/-- The decimal with the fewest digits that reads back as `units`, for `0 < units`. -/
def shortest (units : Nat) : Decimal :=
  (Interval.around units).search (exponentAbove units) 20

def Decimal.positional (d : Decimal) : List Char :=
  let ds := digits d.significand
  if 0 ≤ d.exponent then
    if d.significand = 0 then ds else ds ++ List.replicate d.exponent.toNat '0'
  else
    let places := d.exponent.natAbs
    let padded := List.replicate (places + 1 - ds.length) '0' ++ ds
    padded.take (padded.length - places) ++ '.' :: padded.drop (padded.length - places)

def Decimal.trimmed (d : Decimal) : Nat → Decimal
  | 0 => d
  | fuel + 1 =>
    if d.significand ≠ 0 ∧ d.significand % 10 = 0 then
      Decimal.trimmed ⟨d.significand / 10, d.exponent + 1⟩ fuel
    else d

def render : Binary64 → String
  | .nan => "NaN"
  | .infinite negative => if negative then "-inf" else "inf"
  | .finite negative units =>
    let magnitude :=
      if units = 0 then ['0'] else ((shortest units).trimmed 20).positional
    String.ofList (if negative then '-' :: magnitude else magnitude)

end HealthWatch.Numeral.Binary64

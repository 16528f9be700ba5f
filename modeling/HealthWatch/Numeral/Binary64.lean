/-!
# Binary floating point numbers

`Binary64` holds the numbers of the IEEE 754 format binary64. A finite number is a sign and a
whole number of units of 2^-1074, so that comparing and rounding are arithmetic on `Nat` and
`Int`. `Binary64.ofRatio` rounds a quotient to the nearest number, a tie to the even one.
-/

namespace HealthWatch.Numeral

/-- A number of the format binary64. The magnitude of a finite one is `units / 2 ^ 1074`. -/
inductive Binary64 where
  | nan
  | infinite (negative : Bool)
  | finite (negative : Bool) (units : Nat)
  deriving DecidableEq, Repr

/-- `num / den` to the nearest whole number, a tie to the even one. -/
def divNearest (num den : Nat) : Nat :=
  let q := num / den
  let r := num % den
  if 2 * r < den then q
  else if den < 2 * r then q + 1
  else if q % 2 = 0 then q else q + 1

namespace Binary64

def one : Nat := Nat.pow 2 1074

/-- The units of the least power of two above every finite number. -/
def ceiling : Nat := Nat.pow 2 2098

/-- The binary digits below the 53 significant ones of `units`. -/
def slack (units : Nat) : Nat :=
  units.log2 - 52

def zero (negative : Bool) : Binary64 :=
  .finite negative 0

def ofUnits (negative : Bool) (units : Nat) : Binary64 :=
  if units < ceiling then .finite negative units else .infinite negative

/-- The number nearest to `num / den`, for `0 < den`. -/
def ofRatio (negative : Bool) (num den : Nat) : Binary64 :=
  let scaled := num * one
  let shift := slack (scaled / den)
  let unit := Nat.pow 2 shift
  ofUnits negative (divNearest scaled (den * unit) * unit)

def ofNat (negative : Bool) (n : Nat) : Binary64 :=
  ofRatio negative n 1

/-- The number nearest to `n * 10 ^ exponent`. The two cutoffs lie far outside the format. -/
def ofDecimal (negative : Bool) (n : Nat) (exponent : Int) : Binary64 :=
  if n = 0 then zero negative
  else if 400 < exponent then .infinite negative
  else if exponent < -(400 + n.log2 : Nat) then zero negative
  else if 0 ≤ exponent then ofRatio negative (n * Nat.pow 10 exponent.toNat) 1
  else ofRatio negative n (Nat.pow 10 exponent.natAbs)

/-- The position on the number line in units; infinity stands beyond every finite number. -/
def position? : Binary64 → Option Int
  | .nan => none
  | .infinite negative => some (if negative then -(ceiling : Int) else ceiling)
  | .finite negative units => some (if negative then -(units : Int) else units)

/-- The numeric order: the two zeros are equal, and nothing compares with a NaN. -/
def compare? (x y : Binary64) : Option Ordering :=
  match x.position?, y.position? with
  | some a, some b => some (compare a b)
  | _, _ => none

/-- The product of two magnitudes, rounded. -/
def mul (negative : Bool) (x y : Nat) : Binary64 :=
  ofRatio negative (x * y) (one * one)

/-- The quotient of two magnitudes, rounded, for `0 < y`. -/
def div (negative : Bool) (x y : Nat) : Binary64 :=
  ofRatio negative x y

/-- The nearest natural number up to `greatest`: half a unit goes up, and what lies outside goes
to the nearer end. A NaN gives zero. -/
def toNatClamped (greatest : Nat) : Binary64 → Nat
  | .nan => 0
  | .infinite negative => if negative then 0 else greatest
  | .finite negative units =>
    if negative then 0 else min ((2 * units + one) / (2 * one)) greatest

end Binary64

end HealthWatch.Numeral

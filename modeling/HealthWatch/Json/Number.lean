import HealthWatch.Json.Basic
import HealthWatch.Numeral.Integer

/-!
# JSON numbers

A numeral without fraction and exponent is an integer if 64 bits hold it, signed or unsigned. Any
other numeral is a floating point number, found in two steps: the leading digits are taken as a
significand of 64 bits, and the significand is multiplied or divided by a power of ten, each step
rounded. The result can differ from the nearest number in the last place.
-/

namespace HealthWatch.Json

open Numeral

/-- The parts of a numeral. `fraction` and `exponent` are there only if written. -/
structure NumeralParts where
  negative : Bool
  whole : List Char
  fraction : Option (List Char)
  exponent : Option (Bool × List Char)

/-- Appends digits to the significand as long as 64 bits hold it; also gives the digits left. -/
def absorb (significand : Nat) : List Char → Nat × List Char
  | [] => (significand, [])
  | c :: cs =>
    let next := 10 * significand + (digitValue? c).getD 0
    if next < UInt64.size then absorb next cs else (significand, c :: cs)

/-- The units of a finite number. -/
def unitsOf : Binary64 → Nat
  | .finite _ units => units
  | _ => 0

def powerOfTen (k : Nat) : Nat :=
  unitsOf (Binary64.ofDecimal false 1 k)

/-- Scales a magnitude by `10 ^ exponent`, by powers of ten up to 308; `none` beyond every finite
number. Four divisions bring every significand to zero. -/
def scaleBy (negative : Bool) (units : Nat) (exponent : Int) : Nat → Option Binary64
  | 0 => some (.zero negative)
  | fuel + 1 =>
    if exponent.natAbs ≤ 308 then
      if 0 ≤ exponent then
        match Binary64.mul negative units (powerOfTen exponent.natAbs) with
        | .infinite _ => none
        | x => some x
      else some (Binary64.div negative units (powerOfTen exponent.natAbs))
    else if units = 0 then some (.zero negative)
    else if 0 ≤ exponent then none
    else
      let scaled := unitsOf (Binary64.div false units (powerOfTen 308))
      scaleBy negative scaled (exponent + 308) fuel

/-- The greatest exponent that is kept as it is. -/
def exponentLimit : Nat := 2147483647

def NumeralParts.real? (p : NumeralParts) : Option Binary64 :=
  let (leading, dropped) := absorb 0 p.whole
  let fraction := p.fraction.getD []
  let (significand, ignored) := absorb leading fraction
  let shift : Int := (dropped.length : Int) - ((fraction.length - ignored.length : Nat) : Int)
  let units := unitsOf (Binary64.ofNat false significand)
  match p.exponent with
  | none => scaleBy p.negative units shift 5
  | some (down, ds) =>
    let e := (ofDigits? ds).getD 0
    if exponentLimit < e then
      if significand = 0 || down then some (.zero p.negative) else none
    else scaleBy p.negative units (if down then shift - e else shift + e) 5

/-- The value of a numeral. Minus zero is a floating point number. -/
def NumeralParts.value (p : NumeralParts) : Json :=
  let asReal :=
    match p.real? with
    | some x => .real x
    | none => .unreadable
  match p.fraction, p.exponent with
  | none, none =>
    match absorb 0 p.whole with
    | (n, []) =>
      if p.negative then
        let i := -(n : Int)
        if n ≠ 0 ∧ Width.i64.Holds i then .integer i else asReal
      else .integer n
    | _ => asReal
  | _, _ => asReal

/-- Reads the part of a numeral after the whole digits. -/
def readTail? (negative : Bool) (whole cs : List Char) : Option (Json × List Char) := do
  let (fraction, cs) ←
    match cs with
    | '.' :: cs =>
      let (ds, cs) := spanDigits cs
      if ds.isEmpty then none else some (some ds, cs)
    | cs => some (none, cs)
  let (exponent, cs) ←
    match cs with
    | 'e' :: cs => exponentPart cs
    | 'E' :: cs => exponentPart cs
    | cs => some (none, cs)
  return (NumeralParts.value ⟨negative, whole, fraction, exponent⟩, cs)
where
  exponentPart (cs : List Char) : Option (Option (Bool × List Char) × List Char) :=
    let (down, cs) :=
      match cs with
      | '+' :: cs => (false, cs)
      | '-' :: cs => (true, cs)
      | cs => (false, cs)
    let (ds, cs) := spanDigits cs
    if ds.isEmpty then none else some (some (down, ds), cs)

/-- Reads a numeral behind its sign. A zero is not followed by digits. -/
def readMagnitude? (negative : Bool) (cs : List Char) : Option (Json × List Char) :=
  match spanDigits cs with
  | ([], _) => none
  | ('0' :: _ :: _, _) => none
  | (whole, cs) => readTail? negative whole cs

def readNumber? : List Char → Option (Json × List Char)
  | '-' :: cs => readMagnitude? true cs
  | cs => readMagnitude? false cs

end HealthWatch.Json

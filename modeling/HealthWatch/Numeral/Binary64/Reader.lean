import HealthWatch.Numeral.Binary64
import HealthWatch.Numeral.Decimal

/-!
# Reading floating point numerals

`Binary64.read` reads an optional sign and then digits with an optional point and exponent, or one
of the words `inf`, `infinity` and `nan` in any case. The number is the nearest one; too large a
magnitude gives infinity.
-/

namespace HealthWatch.Numeral

inductive FloatFault where
  | empty
  | invalid
  deriving DecidableEq, Repr

def FloatFault.message : FloatFault → String
  | .empty => "cannot parse float from empty string"
  | .invalid => "invalid float literal"

namespace Binary64

/-- The exponent after `e`: an optional sign and at least one digit, and nothing else. -/
def readExponent? (cs : List Char) : Option Int :=
  match cs with
  | '+' :: ds => magnitude? ds
  | '-' :: ds => (magnitude? ds).map (-·)
  | ds => magnitude? ds
where
  magnitude? (ds : List Char) : Option Int :=
    if ds.isEmpty then none else (ofDigits? ds).map Int.ofNat

/-- Digits, optionally a point and more digits, optionally an exponent: at least one digit. -/
def readMagnitude? (negative : Bool) (cs : List Char) : Option Binary64 := do
  let (whole, rest) := spanDigits cs
  let (fraction, rest) :=
    match rest with
    | '.' :: rest => spanDigits rest
    | rest => ([], rest)
  if whole.isEmpty && fraction.isEmpty then none
  let n ← ofDigits? (whole ++ fraction)
  let exponent ←
    match rest with
    | [] => some 0
    | 'e' :: ds => readExponent? ds
    | 'E' :: ds => readExponent? ds
    | _ => none
  return ofDecimal negative n (exponent - fraction.length)

/-- The words for what is not finite, in any case of ASCII letters. -/
def readWord? (negative : Bool) (cs : List Char) : Option Binary64 :=
  let word := String.ofList (cs.map Char.toLower)
  if word = "inf" || word = "infinity" then some (.infinite negative)
  else if word = "nan" then some .nan
  else none

def readChars (cs : List Char) : Except FloatFault Binary64 :=
  let (negative, body) :=
    match cs with
    | '+' :: cs => (false, cs)
    | '-' :: cs => (true, cs)
    | cs => (false, cs)
  if cs.isEmpty then .error .empty
  else
    match readMagnitude? negative body with
    | some x => .ok x
    | none =>
      match readWord? negative body with
      | some x => .ok x
      | none => .error .invalid

def read (s : String) : Except FloatFault Binary64 :=
  readChars s.toList

end Binary64

end HealthWatch.Numeral

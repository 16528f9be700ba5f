import HealthWatch.Numeral.Base
import HealthWatch.Numeral.Binary64.Reader
import HealthWatch.Numeral.Integer
import HealthWatch.Toml.Basic

/-!
# Numbers of TOML

`readWord?` reads the values that stand for themselves: truth values, integers in four bases, and
floating point numbers. Single underscores may stand between digits.
-/

namespace HealthWatch.Toml

open Numeral

/-- Digits with single underscores between them. -/
def joinDigits? (isDigit : Char → Bool) : List Char → Option (List Char)
  | [] => none
  | [c] => if isDigit c then some [c] else none
  | c :: '_' :: cs => if isDigit c then (joinDigits? isDigit cs).map (c :: ·) else none
  | c :: cs => if isDigit c then (joinDigits? isDigit cs).map (c :: ·) else none

def readBase? (base : Nat) (cs : List Char) : Option Toml := do
  let ds ← joinDigits? (fun c => (baseValue? base c).isSome) cs
  let n ← ofBase? base ds
  if Width.i64.Holds n then return .whole n else none

/-- Decimal digits without a zero in front. -/
def readWhole? (cs : List Char) : Option (List Char) := do
  let ds ← joinDigits? (fun c => (digitValue? c).isSome) cs
  match ds with
  | '0' :: _ :: _ => none
  | ds => return ds

/-- A decimal number without its sign: an integer, or a floating point number with a fraction, an
exponent, or both. One beyond every finite number is refused, but not one below. -/
def readUnsigned? (negative : Bool) (cs : List Char) : Option Toml := do
  let sign := if negative then ['-'] else []
  let (mantissa, exponent) := cs.span fun c => c ≠ 'e' && c ≠ 'E'
  let (leading, fraction) := mantissa.span (· ≠ '.')
  let leading ← readWhole? leading
  if fraction.isEmpty && exponent.isEmpty then
    match Width.i64.readChars (sign ++ leading) with
    | .ok i => return .whole i.val
    | .error _ => none
  else
    let digits := joinDigits? fun c => (digitValue? c).isSome
    let fraction ←
      match fraction with
      | [] => some []
      | _ :: ds => (digits ds).map ('.' :: ·)
    let exponent ←
      match exponent with
      | [] => some []
      | e :: '+' :: ds => (digits ds).map (e :: ·)
      | e :: '-' :: ds => (digits ds).map fun ds => e :: '-' :: ds
      | e :: ds => (digits ds).map (e :: ·)
    match Binary64.readChars (sign ++ leading ++ fraction ++ exponent) with
    | .ok (.infinite false) => none
    | .ok x => return .real x
    | .error _ => none

def readWord? (cs : List Char) : Option Toml :=
  match String.ofList cs with
  | "true" => some (.flag true)
  | "false" => some (.flag false)
  | "inf" | "+inf" => some (.real (.infinite false))
  | "-inf" => some (.real (.infinite true))
  | "nan" | "+nan" | "-nan" => some (.real .nan)
  | _ =>
    match cs with
    | '0' :: 'x' :: ds => readBase? 16 ds
    | '0' :: 'o' :: ds => readBase? 8 ds
    | '0' :: 'b' :: ds => readBase? 2 ds
    | '+' :: ds => readUnsigned? false ds
    | '-' :: ds => readUnsigned? true ds
    | ds => readUnsigned? false ds

end HealthWatch.Toml

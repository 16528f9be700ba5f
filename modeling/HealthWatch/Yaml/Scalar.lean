import HealthWatch.Numeral.Base
import HealthWatch.Numeral.Binary64.Reader
import HealthWatch.Numeral.Integer
import HealthWatch.Settings.Node

/-!
# Scalars of YAML

A text without quotes stands for nothing, a truth value, a number or itself. A tag may ask for one
of these, and `ofTagged?` answers it.
-/

namespace HealthWatch.Yaml

open Numeral
open Settings (Node)

inductive Tag where
  | core (name : String)
  | foreign
  deriving DecidableEq

/-! ### Numbers -/

/-- Reads digits in a base after an optional sign as an integer of 64 bits with a sign. -/
def readBased? (base : Nat) (cs : List Char) : Option Int :=
  let (negative, ds) :=
    match cs with
    | '-' :: ds => (true, ds)
    | '+' :: ds => (false, ds)
    | ds => (false, ds)
  if ds.isEmpty then none
  else do
    let n ← ofBase? base ds
    let i : Int := if negative then -n else n
    if Width.i64.Holds i then return i else none

def readDecimal? (cs : List Char) : Option Int :=
  match Width.i64.readChars cs with
  | .ok i => some i.val
  | .error _ => none

/-- Reads an integer. A mark in front tells that its digits are hexadecimal or octal. -/
def readWhole? (cs : List Char) : Option Int :=
  match cs with
  | '0' :: 'x' :: ds => readBased? 16 ds
  | '0' :: 'o' :: ds => readBased? 8 ds
  | '+' :: ds => readDecimal? ds
  | cs => readDecimal? cs

/-- The words for infinity and for what is no number. No setting can be read from them. -/
def nonFinite : List String :=
  [".inf", ".Inf", ".INF", "+.inf", "+.Inf", "+.INF", "-.inf", "-.Inf", "-.INF", ".nan", ".NAN"]

/-- Reads a floating point number, which has a digit unless it is `NaN`. -/
def readReal? (cs : List Char) : Option Binary64 :=
  if cs = "NaN".toList then some .nan
  else if cs.any Char.isDigit then
    match Binary64.readChars cs with
    | .ok x => some x
    | .error _ => none
  else none

/-! ### Nodes -/

def ofPlain? (cs : List Char) : Option Node :=
  let s := String.ofList cs
  if s = "~" || s = "null" then some .nothing
  else if s = "true" then some (.flag true)
  else if s = "false" then some (.flag false)
  else
    match readWhole? cs with
    | some i => some (.whole i)
    | none =>
      if nonFinite.contains s then none
      else
        match readReal? cs with
        | some x => some (.real x)
        | none => some (.text s)

def ofCore? (type : String) (cs : List Char) : Option Node :=
  let s := String.ofList cs
  match type with
  | "bool" =>
    some (if s = "true" then .flag true else if s = "false" then .flag false else .nothing)
  | "int" => some ((readDecimal? cs).elim .nothing .whole)
  | "float" =>
    if nonFinite.contains s then none else some ((readReal? cs).elim .nothing .real)
  | "null" => some .nothing
  | _ => some (.text s)

def ofTagged? (tag? : Option Tag) (cs : List Char) : Option Node :=
  match tag? with
  | none => ofPlain? cs
  | some (.core type) => ofCore? type cs
  | some .foreign => some (.text (String.ofList cs))

end HealthWatch.Yaml
